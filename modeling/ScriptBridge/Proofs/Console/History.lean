import ScriptBridge.Proofs.Console.Router
import ScriptBridge.Proofs.Console.Writers

/-!
# Histories of a router

A router outlives the runs that attach to it. `Event` is what can happen to it, and `performAll` is
router and host after a history of events.

`demultiplexed`: if every run of a history has writers and a sink of its own, and no writer fails,
then each of them has got exactly what was meant for it. What an event sends to a writer or a sink
(`delivered`, `reported`) depends on who is attached only. So one list is followed along a history
(`along`): nothing of it comes to what is not attached, and between the start of a run and the next
turn it is what the events of that run say.
-/

namespace ScriptBridge

namespace Attachment

def writers (a : Attachment) : List Nat := [a.out, a.err]

def sinks (a : Attachment) : List Nat := a.progress.toList

end Attachment

namespace Router

/-! ### Events -/

/-- What can happen to a router. -/
inductive Event where
  | beginRun (a : Attachment)
  | endRun
  /-- The interpreter prints. -/
  | write (chunk : Chunk)
  | showMessage (text : String)
  | flush

namespace Event

/-- A run starts or ends. -/
def IsTurn : Event → Prop
  | beginRun _ | endRun => True
  | _ => False

/-- The regular output that is printed. -/
def output? : Event → Option String
  | write ⟨.output, text⟩ => some text
  | _ => none

def diagnostic? : Event → Option String
  | write ⟨.error, text⟩ => if Signal.ofText text = .diagnostic then some text else none
  | _ => none

/-- What is shown or printed for the error writer of a run. -/
def errorText? : Event → Option String
  | showMessage text => some text
  | e => e.diagnostic?

def stop? : Event → Option String
  | write ⟨.error, text⟩ =>
    match Signal.ofText text with
    | .stop message => some message
    | _ => none
  | _ => none

def progress? : Event → Option Int32
  | write ⟨.error, text⟩ =>
    match Signal.ofText text with
    | .progress n => some n
    | _ => none
  | _ => none

/-- The run that is attached afterwards. -/
def attached (run : Option Attachment) : Event → Option Attachment
  | beginRun a => some a
  | endRun => none
  | _ => run

/-- The run that starts. -/
def started? : Event → Option Attachment
  | beginRun a => some a
  | _ => none

theorem IsTurn.eq {e : Event} (h : e.IsTurn) : (∃ a, e = beginRun a) ∨ e = endRun := by
  cases e with
  | beginRun a => exact .inl ⟨a, rfl⟩
  | endRun => exact .inr rfl
  | write chunk => exact h.elim
  | showMessage text => exact h.elim
  | flush => exact h.elim

end Event

/-- Router and host after an event. -/
def perform (s : Router × Host) : Event → Router × Host
  | .beginRun a => (s.1.beginRun a, s.2)
  | .endRun => (s.1.endRun, s.2)
  | .write chunk => s.1.write chunk s.2
  | .showMessage text => (s.1, s.1.showMessage text s.2)
  | .flush => (s.1, s.1.flush s.2)

/-- Router and host after a history. -/
def performAll (s : Router × Host) (es : List Event) : Router × Host := es.foldl perform s

variable {s : Router × Host} {e : Event} {es before during after : List Event} {i : Nat}
  {echo : Option Nat} {run : Option Attachment} {a : Attachment} {octets : List UInt8}

@[simp] theorem performAll_nil : performAll s [] = s := rfl

@[simp] theorem performAll_cons : performAll s (e :: es) = performAll (perform s e) es := rfl

theorem performAll_append : performAll s (es ++ after) = performAll (performAll s es) after :=
  List.foldl_append

/-! ### The router after an event -/

theorem perform_echo : (perform s e).1.echo = s.1.echo := by
  cases e <;> simp [perform, beginRun, endRun]

theorem perform_run : (perform s e).1.run = e.attached s.1.run := by
  cases e <;> simp [perform, beginRun, endRun, Event.attached]

theorem writeError_stopMessage (r : Router) (text : String) (h : Host) :
    (r.writeError text h).1.stopMessage =
      (Event.stop? (.write ⟨.error, text⟩)).or r.stopMessage := by
  simp only [writeError, Event.stop?]
  cases Signal.ofText text with
  | stop message => rfl
  | progress n => cases r.run.bind (·.progress) <;> rfl
  | diagnostic => rfl

theorem perform_stopMessage (hturn : ¬e.IsTurn) :
    (perform s e).1.stopMessage = e.stop?.or s.1.stopMessage := by
  cases e with
  | beginRun a => exact absurd trivial hturn
  | endRun => exact absurd trivial hturn
  | write chunk =>
    obtain ⟨_ | _, text⟩ := chunk
    · rfl
    · exact writeError_stopMessage _ _ _
  | showMessage text => rfl
  | flush => rfl

theorem perform_stopMessage_of_isTurn (hturn : e.IsTurn) : (perform s e).1.stopMessage = none := by
  obtain ⟨a, rfl⟩ | rfl := hturn.eq
  · rfl
  · rfl

theorem performAll_stopMessage (hturn : ∀ e ∈ es, ¬e.IsTurn) :
    (performAll s es).1.stopMessage = (es.filterMap Event.stop?).getLast?.or s.1.stopMessage := by
  induction es generalizing s with
  | nil => rfl
  | cons e es ih =>
    obtain ⟨he, hes⟩ := List.forall_mem_cons.mp hturn
    rw [performAll_cons, ih hes, perform_stopMessage he, List.filterMap_cons]
    cases e.stop? with
    | none => rfl
    | some message =>
      rw [List.getLast?_cons]
      cases (es.filterMap Event.stop?).getLast? <;> rfl

/-! ### Following a list along a history -/

variable {β : Type} {f : Option Attachment → Event → List β}

/-- What the events of a history yield one after the other, depending on who is attached. -/
def along (f : Option Attachment → Event → List β) : Option Attachment → List Event → List β
  | _, [] => []
  | run, e :: es => f run e ++ along f (e.attached run) es

theorem along_append : ∀ run, along f run (es ++ after) =
    along f run es ++ along f (es.foldl Event.attached run) after := by
  induction es with
  | nil => exact fun run => rfl
  | cons e es ih =>
    intro run
    rw [List.cons_append, along, ih, along, List.append_assoc]
    rfl

theorem along_eq_filterMap {g : Event → Option β} (P : Option Attachment → Prop)
    (hkeep : ∀ run, ∀ e ∈ es, P run → P (e.attached run))
    (hf : ∀ run, ∀ e ∈ es, P run → f run e = (g e).toList) (hrun : P run) :
    along f run es = es.filterMap g := by
  induction es generalizing run with
  | nil => rfl
  | cons e es ih =>
    obtain ⟨hkeepe, hkeep⟩ : (∀ run, P run → P (e.attached run)) ∧
        ∀ run, ∀ e ∈ es, P run → P (e.attached run) :=
      ⟨fun run => hkeep run e List.mem_cons_self,
        fun run e' he' => hkeep run e' (List.mem_cons_of_mem _ he')⟩
    rw [along, hf run e List.mem_cons_self hrun,
      ih hkeep (fun run e' he' => hf run e' (List.mem_cons_of_mem _ he')) (hkeepe run hrun)]
    cases hg : g e with
    | none => simp [hg]
    | some b => simp [hg]

def started (es : List Event) : List Attachment := es.filterMap Event.started?

/-- Of the things that a run uses, none is `i`. -/
def Free (uses : Attachment → List Nat) (i : Nat) (run : Option Attachment) : Prop :=
  ∀ a, run = some a → i ∉ uses a

variable {uses : Attachment → List Nat}

theorem free_none : Free uses i none := fun _ h => (nomatch h)

theorem Free.attached (hrun : Free uses i run) (he : ∀ a, e.started? = some a → i ∉ uses a) :
    Free uses i (e.attached run) := by
  cases e with
  | beginRun a => exact he
  | endRun => exact free_none
  | write chunk => exact hrun
  | showMessage text => exact hrun
  | flush => exact hrun

/-- What is free in the end of a history yields nothing if every event yields nothing for it. -/
theorem along_free {g : Event → Option β} (hf : ∀ run e, Free uses i run → f run e = (g e).toList)
    (hrun : Free uses i run) (hes : i ∉ (started es).flatMap uses) :
    along f run es = es.filterMap g := by
  refine along_eq_filterMap (Free uses i) (fun run e he h => ?_) (fun run e _ => hf run e) hrun
  exact h.attached fun a ha hi =>
    hes (List.mem_flatMap.mpr ⟨a, List.mem_filterMap.mpr ⟨e, he, ha⟩, hi⟩)

theorem along_free_nil (hf : ∀ run e, Free uses i run → f run e = []) (hrun : Free uses i run)
    (hes : i ∉ (started es).flatMap uses) : along f run es = [] := by
  have hnone : along f run es = es.filterMap fun _ => none := along_free hf hrun hes
  exact hnone.trans (List.filterMap_eq_nil_iff.mpr fun _ _ => rfl)

theorem attached_of_not_isTurn (hturn : ¬e.IsTurn) : e.attached run = run := by
  cases e with
  | beginRun a => exact absurd trivial hturn
  | endRun => exact absurd trivial hturn
  | write chunk => rfl
  | showMessage text => rfl
  | flush => rfl

/-- While a run is attached, the events yield what they say for it. -/
theorem along_attached {g : Event → Option β} (hf : ∀ e, f (some a) e = (g e).toList)
    (hes : ∀ e ∈ es, ¬e.IsTurn) : along f (some a) es = es.filterMap g := by
  refine along_eq_filterMap (· = some a) (fun run e he h => ?_) (fun run e he h => ?_) rfl
  · rw [attached_of_not_isTurn (hes e he), h]
  · rw [h, hf]

/-! ### Writers -/

/-- The texts that an event sends to a writer. -/
def delivered (echo : Option Nat) (i : Nat) (run : Option Attachment) (e : Event) : List String :=
  (if run.map (·.out) = some i then e.output?.toList else []) ++
    ((if echo = some i then e.diagnostic?.toList else []) ++
      if run.map (·.err) = some i then e.errorText?.toList else [])

theorem delivered_output (text : String) : delivered echo i run (.write ⟨.output, text⟩) =
    if run.map (·.out) = some i then [text] else [] := by
  simp [delivered, Event.output?, Event.errorText?, Event.diagnostic?]

theorem delivered_message (text : String) : delivered echo i run (.showMessage text) =
    if run.map (·.err) = some i then [text] else [] := by
  simp [delivered, Event.output?, Event.errorText?, Event.diagnostic?]

theorem delivered_diagnostic {text : String} (hs : Signal.ofText text = .diagnostic) :
    delivered echo i run (.write ⟨.error, text⟩) =
      (if echo = some i then [text] else []) ++
        if run.map (·.err) = some i then [text] else [] := by
  simp [delivered, Event.output?, Event.errorText?, Event.diagnostic?, hs]

theorem delivered_of_silent (hout : e.output? = none) (herr : e.errorText? = none)
    (hdiagnostic : e.diagnostic? = none) : delivered echo i run e = [] := by
  simp [delivered, hout, herr, hdiagnostic]

theorem delivered_signal {text : String} (hs : Signal.ofText text ≠ .diagnostic) :
    delivered echo i run (.write ⟨.error, text⟩) = [] :=
  delivered_of_silent rfl (if_neg hs) (if_neg hs)

theorem holds_of_nil {h : Host} {texts : List String} (hi : h.Holds i octets)
    (htexts : texts = []) : h.Holds i (octets ++ Utf8.encodeAll texts) := by
  rwa [htexts, Utf8.encodeAll_nil, List.append_nil]

theorem holds_writeError {r : Router} {h : Host} (hi : h.Holds i octets) (text : String) :
    (r.writeError text h).2.Holds i
      (octets ++ Utf8.encodeAll (delivered r.echo i r.run (.write ⟨.error, text⟩))) := by
  unfold writeError
  cases hs : Signal.ofText text with
  | stop message => exact holds_of_nil hi (delivered_signal (by simp [hs]))
  | progress n =>
    have hnil : delivered r.echo i r.run (.write ⟨.error, text⟩) = [] :=
      delivered_signal (by simp [hs])
    cases r.run.bind (·.progress) with
    | some sink => exact holds_of_nil hi hnil
    | none => exact holds_of_nil hi hnil
  | diagnostic =>
    rw [delivered_diagnostic hs, Utf8.encodeAll_append, ← List.append_assoc]
    exact (hi.forward r.echo).forward _

theorem holds_perform (hi : s.2.Holds i octets) :
    (perform s e).2.Holds i (octets ++ Utf8.encodeAll (delivered s.1.echo i s.1.run e)) := by
  cases e with
  | beginRun a => exact holds_of_nil hi (delivered_of_silent rfl rfl rfl)
  | endRun => exact holds_of_nil hi (delivered_of_silent rfl rfl rfl)
  | write chunk =>
    obtain ⟨_ | _, text⟩ := chunk
    · rw [delivered_output]
      exact hi.forward _
    · exact holds_writeError hi text
  | showMessage text =>
    rw [delivered_message]
    exact hi.forward _
  | flush =>
    refine holds_of_nil ?_ (delivered_of_silent rfl rfl rfl)
    simp only [perform, Router.flush]
    cases s.1.run with
    | some a => exact hi.flush.flush
    | none => exact hi

theorem holds_performAll (es : List Event) (hi : s.2.Holds i octets) :
    (performAll s es).2.Holds i
      (octets ++ Utf8.encodeAll (along (delivered s.1.echo i) s.1.run es)) := by
  -- The texts of the first event are part of what the writer holds when the rest starts.
  induction es generalizing s octets with
  | nil => exact holds_of_nil hi rfl
  | cons e es ih =>
    have hnext := ih (holds_perform (e := e) hi)
    rw [perform_echo, perform_run] at hnext
    rwa [along, Utf8.encodeAll_append, ← List.append_assoc]

theorem map_ne_of_free (hrun : Free Attachment.writers i run) :
    run.map (·.out) ≠ some i ∧ run.map (·.err) ≠ some i := by
  cases run with
  | none => simp
  | some a =>
    have ha : i ∉ [a.out, a.err] := hrun a rfl
    simpa [eq_comm] using ha

theorem delivered_free (hecho : echo ≠ some i) (hrun : Free Attachment.writers i run) :
    delivered echo i run e = [] := by
  obtain ⟨hout, herr⟩ := map_ne_of_free hrun
  simp [delivered, hecho, hout, herr]

theorem delivered_echo (hrun : Free Attachment.writers i run) :
    delivered (some i) i run e = e.diagnostic?.toList := by
  obtain ⟨hout, herr⟩ := map_ne_of_free hrun
  simp [delivered, hout, herr]

theorem delivered_out (hecho : echo ≠ some a.out) (hne : a.out ≠ a.err) :
    delivered echo a.out (some a) e = e.output?.toList := by
  simp [delivered, hecho, hne.symm]

theorem delivered_err (hecho : echo ≠ some a.err) (hne : a.out ≠ a.err) :
    delivered echo a.err (some a) e = e.errorText?.toList := by
  simp [delivered, hecho, hne]

/-! ### Sinks -/

/-- The numbers that an event sends to a sink. -/
def reported (i : Nat) (run : Option Attachment) (e : Event) : List Int32 :=
  if run.bind (·.progress) = some i then e.progress?.toList else []

theorem forward_sinks (writer : Option Nat) (text : String) (h : Host) :
    (forward writer text h).sinks = h.sinks := by
  cases writer <;> rfl

theorem writeError_sink {r : Router} {h : Host} {v : Int32} (hv : h.sinks[i]? = some v)
    (text : String) : (r.writeError text h).2.sinks[i]? =
      some ((reported i r.run (.write ⟨.error, text⟩)).getLast?.getD v) := by
  simp only [writeError, reported, Event.progress?]
  cases Signal.ofText text with
  | stop message => simp [hv]
  | progress n =>
    cases hsink : r.run.bind (·.progress) with
    | none => simp [hv]
    | some j =>
      by_cases hji : j = i
      · have hlength : i < h.sinks.length := (List.getElem?_eq_some_iff.mp hv).1
        simp [Host.setSink, hji, hlength]
      · simp [Host.setSink, hji, hv]
  | diagnostic => simp [forward_sinks, hv]

theorem perform_sink {v : Int32} (hv : s.2.sinks[i]? = some v) :
    (perform s e).2.sinks[i]? = some ((reported i s.1.run e).getLast?.getD v) := by
  have hsilent (hprogress : e.progress? = none) : reported i s.1.run e = [] := by
    simp [reported, hprogress]
  cases e with
  | beginRun a => rwa [hsilent rfl]
  | endRun => rwa [hsilent rfl]
  | write chunk =>
    obtain ⟨_ | _, text⟩ := chunk
    · rw [hsilent rfl]
      simpa [perform, write, forward_sinks] using hv
    · exact writeError_sink hv text
  | showMessage text =>
    rw [hsilent rfl]
    simpa [perform, showMessage, forward_sinks] using hv
  | flush =>
    rw [hsilent rfl]
    simp only [perform, Router.flush]
    cases s.1.run <;> exact hv

theorem performAll_sink {v : Int32} (es : List Event) (hv : s.2.sinks[i]? = some v) :
    (performAll s es).2.sinks[i]? = some ((along (reported i) s.1.run es).getLast?.getD v) := by
  induction es generalizing s v with
  | nil => exact hv
  | cons e es ih =>
    rw [performAll_cons, ih (perform_sink hv), perform_run, along, List.getLast?_append]
    cases (along (reported i) (e.attached s.1.run) es).getLast? <;> rfl

theorem reported_free (hrun : Free Attachment.sinks i run) : reported i run e = [] := by
  have hne : run.bind (·.progress) ≠ some i := by
    cases run with
    | none => simp
    | some a =>
      have ha : i ∉ a.progress.toList := hrun a rfl
      simpa using ha
  simp [reported, hne]

theorem reported_attached (hi : a.progress = some i) :
    reported i (some a) e = e.progress?.toList := by
  simp [reported, hi]

/-! ### Runs of a history -/

/-- `during` is what happens in a run of the history: from its start to the next turn, or to the end
of the history. -/
def IsRun (es : List Event) (a : Attachment) (during : List Event) : Prop :=
  ∃ before after, es = before ++ .beginRun a :: (during ++ after) ∧ (∀ e ∈ during, ¬e.IsTurn) ∧
    ∀ e ∈ after.head?, e.IsTurn

/-- `last` is what happens after the last turn of the history. -/
def IsLatest (es last : List Event) : Prop :=
  ∃ before, es = before ++ last ∧ (∀ e ∈ last, ¬e.IsTurn) ∧ ∀ e ∈ before.getLast?, e.IsTurn

/-- Writers and sinks of a history are there and accept everything, and each serves one purpose: it
echoes, or it belongs to one run. -/
structure Separate (echo : Option Nat) (h : Host) (es : List Event) : Prop where
  writers : (echo.toList ++ (started es).flatMap Attachment.writers).Nodup
  sinks : ((started es).flatMap Attachment.sinks).Nodup
  accepting : ∀ i ∈ echo.toList ++ (started es).flatMap Attachment.writers,
    ∃ w, h.writers[i]? = some w ∧ w.failing = false
  known : ∀ i ∈ (started es).flatMap Attachment.sinks, i < h.sinks.length

theorem along_turn (hf : ∀ run e, e.IsTurn → f run e = []) (hhead : ∀ e ∈ es.head?, e.IsTurn) :
    along f run es = along f none es := by
  cases es with
  | nil => rfl
  | cons e es =>
    have he : e.IsTurn := hhead e rfl
    have hattached : e.attached run = e.attached none := by
      obtain ⟨a, rfl⟩ | rfl := he.eq
      · rfl
      · rfl
    rw [along, along, hf _ _ he, hf _ _ he, hattached]

/-- What turns add nothing to falls into three parts: before, during and after a run. -/
theorem along_run (hf : ∀ run e, e.IsTurn → f run e = []) (hhead : ∀ e ∈ after.head?, e.IsTurn) :
    along f none (before ++ .beginRun a :: (during ++ after)) =
      along f none before ++ (along f (some a) during ++ along f none after) := by
  have hrun (run : Option Attachment) :
      along f run (.beginRun a :: (during ++ after)) = along f (some a) (during ++ after) := by
    rw [along, hf _ (.beginRun a) trivial]
    rfl
  rw [along_append, hrun, along_append, along_turn hf hhead]

theorem along_own {g : Event → Option β} (hf : ∀ run e, e.IsTurn → f run e = [])
    (hfree : ∀ run e, Free uses i run → f run e = []) (hown : ∀ e, f (some a) e = (g e).toList)
    (hhead : ∀ e ∈ after.head?, e.IsTurn) (hduring : ∀ e ∈ during, ¬e.IsTurn)
    (hbefore : i ∉ (started before).flatMap uses) (hafter : i ∉ (started after).flatMap uses) :
    along f none (before ++ .beginRun a :: (during ++ after)) = during.filterMap g := by
  rw [along_run hf hhead, along_free_nil hfree free_none hbefore, along_attached hown hduring,
    along_free_nil hfree free_none hafter, List.nil_append, List.append_nil]

theorem delivered_turn (run : Option Attachment) (e : Event) (he : e.IsTurn) :
    delivered echo i run e = [] := by
  obtain ⟨a, rfl⟩ | rfl := he.eq
  · exact delivered_of_silent rfl rfl rfl
  · exact delivered_of_silent rfl rfl rfl

theorem reported_turn (run : Option Attachment) (e : Event) (he : e.IsTurn) :
    reported i run e = [] := by
  obtain ⟨a, rfl⟩ | rfl := he.eq
  · simp [reported, Event.progress?]
  · simp [reported, Event.progress?]

variable {h : Host}

theorem own_of_nodup (shared : List Nat) {bs own ds as : List Nat}
    (h : (shared ++ (bs ++ (own ++ (ds ++ as)))).Nodup) :
    own.Nodup ∧ ∀ i ∈ own, i ∉ shared ∧ i ∉ bs ∧ i ∉ as := by
  obtain ⟨-, h, hshared⟩ := List.nodup_append.mp h
  obtain ⟨-, h, hbs⟩ := List.nodup_append.mp h
  obtain ⟨hown, -, has⟩ := List.nodup_append.mp h
  refine ⟨hown, fun i hi => ⟨fun hmem => ?_, fun hmem => ?_, fun hmem => ?_⟩⟩
  · exact hshared i hmem i (by simp [hi]) rfl
  · exact hbs i hmem i (by simp [hi]) rfl
  · exact has i hi i (by simp [hmem]) rfl

theorem flatMap_started_run :
    (started (before ++ .beginRun a :: (during ++ after))).flatMap uses =
      (started before).flatMap uses ++ (uses a ++
        ((started during).flatMap uses ++ (started after).flatMap uses)) := by
  simp [started, Event.started?]

/-- A writer of a run gets what its run has for it, if that is all that an event sends to it while
the run is attached. -/
theorem octets_of_own {g : Event → Option String}
    (hsep : Separate echo h (before ++ .beginRun a :: (during ++ after)))
    (hi : i ∈ a.writers) (hhead : ∀ e ∈ after.head?, e.IsTurn) (hduring : ∀ e ∈ during, ¬e.IsTurn)
    (hown : echo ≠ some i → ∀ e, delivered echo i (some a) e = (g e).toList) :
    ((performAll ({ echo }, h) (before ++ .beginRun a :: (during ++ after))).2.writer i).octets =
      (h.writer i).octets ++ Utf8.encodeAll (during.filterMap g) := by
  have hwriters := hsep.writers
  have haccepting := hsep.accepting
  rw [flatMap_started_run] at hwriters haccepting
  obtain ⟨hshared, hbefore, hafter⟩ := (own_of_nodup _ hwriters).2 i hi
  have hecho : echo ≠ some i := fun h => hshared (by simp [h])
  obtain ⟨w, hw, hfailing⟩ := haccepting i (by simp [hi])
  have hstart : h.Holds i (h.writer i).octets := ⟨w, hw, hfailing, by simp [Host.writer, hw]⟩
  have hlist : along (delivered echo i) none (before ++ .beginRun a :: (during ++ after)) =
      during.filterMap g :=
    along_own delivered_turn (fun _ _ hrun => delivered_free hecho hrun) (hown hecho) hhead hduring
      hbefore hafter
  have hend := (holds_performAll (s := ({ echo }, h))
    (before ++ .beginRun a :: (during ++ after)) hstart).octets_eq
  rwa [hlist] at hend

theorem sink_of_own (hsep : Separate echo h (before ++ .beginRun a :: (during ++ after)))
    (hi : a.progress = some i) (hhead : ∀ e ∈ after.head?, e.IsTurn)
    (hduring : ∀ e ∈ during, ¬e.IsTurn) :
    (performAll ({ echo }, h) (before ++ .beginRun a :: (during ++ after))).2.sink i =
      (during.filterMap Event.progress?).getLast?.getD (h.sink i) := by
  have hsinks := hsep.sinks
  have hknown := hsep.known
  rw [flatMap_started_run] at hsinks hknown
  have hmem : i ∈ a.sinks := by simp [Attachment.sinks, hi]
  obtain ⟨-, hbefore, hafter⟩ := (own_of_nodup [] hsinks).2 i hmem
  have hlength : i < h.sinks.length := hknown i (by simp [hmem])
  have hstart : h.sinks[i]? = some (h.sink i) := by simp [Host.sink, hlength]
  have hlist : along (reported i) none (before ++ .beginRun a :: (during ++ after)) =
      during.filterMap Event.progress? :=
    along_own reported_turn (fun _ _ hrun => reported_free hrun) (fun _ => reported_attached hi)
      hhead hduring hbefore hafter
  have hend := performAll_sink (s := ({ echo }, h))
    (before ++ .beginRun a :: (during ++ after)) hstart
  rw [hlist] at hend
  rw [Host.sink, List.getD_eq_getElem?_getD, hend, Option.getD_some]

theorem octets_of_echo (hsep : Separate (some i) h es) :
    ((performAll ({ echo := some i }, h) es).2.writer i).octets =
      (h.writer i).octets ++ Utf8.encodeAll (es.filterMap Event.diagnostic?) := by
  have hfree : i ∉ (started es).flatMap Attachment.writers :=
    fun hmem => (List.nodup_append.mp hsep.writers).2.2 i (by simp) i hmem rfl
  obtain ⟨w, hw, hfailing⟩ := hsep.accepting i (by simp)
  have hstart : h.Holds i (h.writer i).octets := ⟨w, hw, hfailing, by simp [Host.writer, hw]⟩
  have hlist : along (delivered (some i) i) none es = es.filterMap Event.diagnostic? :=
    along_free (fun _ _ hrun => delivered_echo hrun) free_none hfree
  have hend := (holds_performAll (s := ({ echo := some i }, h)) es hstart).octets_eq
  rwa [hlist] at hend

theorem stopMessage_of_isLatest {last : List Event} (hlast : IsLatest es last) :
    (performAll ({ echo }, h) es).1.stopMessage = (last.filterMap Event.stop?).getLast? := by
  obtain ⟨before, rfl, hturn, hbefore⟩ := hlast
  -- Before the latest events there is nothing or a turn: neither leaves a stop message.
  have hnone : (performAll ({ echo }, h) before).1.stopMessage = none := by
    rcases List.eq_nil_or_concat before with rfl | ⟨earlier, e, rfl⟩
    · rfl
    · rw [List.concat_eq_append, performAll_append]
      exact perform_stopMessage_of_isTurn (hbefore e (by simp))
  rw [performAll_append, performAll_stopMessage hturn, hnone, Option.or_none]

/-- Over a history in which every run has writers and a sink of its own, and no writer fails: the
writer for output of a run gets the regular output of this run and nothing else, its error writer
the messages and diagnostics of this run in their order, and its sink has the last progress of this
run, if there is any. The stop message is the last one since a run started or ended. The writer for
echoes gets every diagnostic once, in a run or not. -/
theorem demultiplexed {es : List Event} (hsep : Separate echo h es) :
    (∀ a during, IsRun es a during →
      ((performAll ({ echo }, h) es).2.writer a.out).octets =
        (h.writer a.out).octets ++ Utf8.encodeAll (during.filterMap Event.output?) ∧
      ((performAll ({ echo }, h) es).2.writer a.err).octets =
        (h.writer a.err).octets ++ Utf8.encodeAll (during.filterMap Event.errorText?) ∧
      ∀ i, a.progress = some i → (performAll ({ echo }, h) es).2.sink i =
        (during.filterMap Event.progress?).getLast?.getD (h.sink i)) ∧
    (∀ last, IsLatest es last → (performAll ({ echo }, h) es).1.stopMessage =
      (last.filterMap Event.stop?).getLast?) ∧
    ∀ i, echo = some i → ((performAll ({ echo }, h) es).2.writer i).octets =
      (h.writer i).octets ++ Utf8.encodeAll (es.filterMap Event.diagnostic?) := by
  refine ⟨?_, ?_, ?_⟩
  · rintro a during ⟨before, after, rfl, hduring, hhead⟩
    have hwriters := hsep.writers
    rw [flatMap_started_run] at hwriters
    have hown : [a.out, a.err].Nodup := (own_of_nodup _ hwriters).1
    have hne : a.out ≠ a.err := by simpa using hown
    refine ⟨?_, ?_, fun i hi => ?_⟩
    · exact octets_of_own hsep (by simp [Attachment.writers]) hhead hduring
        fun hecho _ => delivered_out hecho hne
    · exact octets_of_own hsep (by simp [Attachment.writers]) hhead hduring
        fun hecho _ => delivered_err hecho hne
    · exact sink_of_own hsep hi hhead hduring
  · exact fun last => stopMessage_of_isLatest
  · rintro i rfl
    exact octets_of_echo hsep

/-! ### Two runs -/

/-- What happens in the first of two runs. -/
def firstRun : List Event :=
  [.write ⟨.output, "one"⟩, .write ⟨.error, "<PARProgress>=3"⟩, .showMessage "note ",
    .write ⟨.error, "careful"⟩]

def secondRun : List Event :=
  [.write ⟨.output, "two"⟩, .flush, .write ⟨.error, "<PARError> no"⟩]

/-- A diagnostic, then two runs, the second of which starts before the first has ended. -/
def twoRuns : List Event :=
  .write ⟨.error, "early "⟩ ::
    .beginRun ⟨1, 2, some 0⟩ :: (firstRun ++ .beginRun ⟨3, 4, some 1⟩ :: secondRun)

def twoRunsHost : Host where
  writers := [{}, {}, {}, {}, {}]
  sinks := [0, 7]

theorem separate_twoRuns : Separate (some 0) twoRunsHost twoRuns where
  writers := by decide
  sinks := by decide
  accepting := by decide
  known := by decide

/-- The writers of the first run get nothing of the second. -/
theorem demultiplexed_twoRuns :
    Separate (some 0) twoRunsHost twoRuns ∧ IsRun twoRuns ⟨1, 2, some 0⟩ firstRun ∧
    IsLatest twoRuns secondRun ∧
    ((performAll ({ echo := some 0 }, twoRunsHost) twoRuns).2.writer 1).octets = Utf8.encode "one" ∧
    ((performAll ({ echo := some 0 }, twoRunsHost) twoRuns).2.writer 2).octets =
      Utf8.encode "note careful" ∧
    (performAll ({ echo := some 0 }, twoRunsHost) twoRuns).2.sink 0 = 3 ∧
    (performAll ({ echo := some 0 }, twoRunsHost) twoRuns).1.stopMessage = some "no" ∧
    ((performAll ({ echo := some 0 }, twoRunsHost) twoRuns).2.writer 0).octets =
      Utf8.encode "early careful" := by
  have hfirst : IsRun twoRuns ⟨1, 2, some 0⟩ firstRun :=
    ⟨[.write ⟨.error, "early "⟩], .beginRun ⟨3, 4, some 1⟩ :: secondRun, rfl,
      by simp [firstRun, Event.IsTurn], by simp [Event.IsTurn]⟩
  have hsecond : IsLatest twoRuns secondRun :=
    ⟨.write ⟨.error, "early "⟩ :: .beginRun ⟨1, 2, some 0⟩ ::
      (firstRun ++ [.beginRun ⟨3, 4, some 1⟩]), rfl, by simp [secondRun, Event.IsTurn],
      by simp [firstRun, Event.IsTurn]⟩
  obtain ⟨hruns, hstop, hecho⟩ := demultiplexed separate_twoRuns
  obtain ⟨hout, herr, hsink⟩ := hruns _ _ hfirst
  exact ⟨separate_twoRuns, hfirst, hsecond, hout, herr, hsink 0 rfl, hstop _ hsecond, hecho 0 rfl⟩

end Router

end ScriptBridge
