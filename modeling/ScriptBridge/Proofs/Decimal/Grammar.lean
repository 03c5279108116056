import ScriptBridge.Decimal.Reading

/-!
# The grammar of decimals

A decimal without a sign is digits with an optional fraction or a fraction alone, and an optional
power of ten with one digit at least (`Decimal.IsDecimal`). Every one of them is read as a double
(`Decimal.IsDecimal.exists_read?`). No double is read from what has a second point or a power
without digits (`Decimal.IsMalformed.read?_eq_none`).
-/

namespace ScriptBridge.Decimal

variable {cs ds fs m p rest : List Char} {c : Char}

/-! ### The grammar -/

def AllDigits (cs : List Char) : Prop := ∀ c ∈ cs, c.isDigit = true

theorem allDigits_nil : AllDigits [] := nofun

/-- Digits with an optional fraction, or a fraction alone. -/
inductive IsMantissa : List Char → Prop where
  | whole {ds : List Char} (hne : ds ≠ []) (hds : AllDigits ds) : IsMantissa ds
  | point {ds fs : List Char} (hne : ds ≠ []) (hds : AllDigits ds) (hfs : AllDigits fs) :
      IsMantissa (ds ++ '.' :: fs)
  | fraction {fs : List Char} (hne : fs ≠ []) (hfs : AllDigits fs) : IsMantissa ('.' :: fs)

def IsLetter (c : Char) : Prop := c = 'e' ∨ c = 'E'

def IsSign (c : Char) : Prop := c = '+' ∨ c = '-'

/-- A power of ten: its letter, an optional sign, and one digit at least. -/
inductive IsPower : List Char → Prop where
  | unsigned {e : Char} {ds : List Char} (he : IsLetter e) (hne : ds ≠ []) (hds : AllDigits ds) :
      IsPower (e :: ds)
  | signed {e s : Char} {ds : List Char} (he : IsLetter e) (hs : IsSign s) (hne : ds ≠ [])
      (hds : AllDigits ds) : IsPower (e :: s :: ds)

/-- A complete decimal number without a sign. -/
inductive IsDecimal : List Char → Prop where
  | plain {m : List Char} (hm : IsMantissa m) : IsDecimal m
  | scaled {m p : List Char} (hm : IsMantissa m) (hp : IsPower p) : IsDecimal (m ++ p)

/-- A power of ten that has no digits behind its sign. -/
inductive IsOpenPower : List Char → Prop where
  | intro {e s : Char} (he : IsLetter e) (hs : IsSign s) : IsOpenPower [e, s]

/-- What looks like a decimal but has a second point behind a fraction that stands alone, whatever
there is as a power, or has a power without digits. -/
inductive IsMalformed : List Char → Prop where
  | points {fs gs p : List Char} (hne : fs ≠ []) (hfs : AllDigits fs) (hgs : AllDigits gs)
      (hp : p = [] ∨ IsPower p ∨ IsOpenPower p) : IsMalformed ('.' :: fs ++ '.' :: gs ++ p)
  | power {m p : List Char} (hm : IsMantissa m) (hp : IsOpenPower p) : IsMalformed (m ++ p)

/-- A mantissa goes on to a decimal or to what only looks like one. -/
theorem IsMantissa.append_cases (hm : IsMantissa m) (hp : p = [] ∨ IsPower p ∨ IsOpenPower p) :
    IsDecimal (m ++ p) ∨ IsMalformed (m ++ p) := by
  rcases hp with rfl | hp | hp
  · rw [List.append_nil]
    exact .inl (.plain hm)
  · exact .inl (.scaled hm hp)
  · exact .inr (.power hm hp)

/-! ### Digits at the start of a text -/

/-- The text does not go on with a digit. -/
def Stops (rest : List Char) : Prop := ∀ c ∈ rest.head?, c.isDigit = false

theorem stops_nil : Stops [] := nofun

theorem stops_cons (hc : c.isDigit = false) : Stops (c :: cs) := by
  intro d hd
  cases hd
  exact hc

theorem takeWhile_digits (hds : AllDigits ds) (hrest : Stops rest) :
    (ds ++ rest).takeWhile Char.isDigit = ds := by
  rw [List.takeWhile_append_of_pos hds]
  cases rest with
  | nil => exact List.append_nil ds
  | cons c rest =>
    rw [List.takeWhile_cons_of_neg (by rw [hrest c rfl]; exact Bool.false_ne_true), List.append_nil]

theorem dropWhile_digits (hds : AllDigits ds) (hrest : Stops rest) :
    (ds ++ rest).dropWhile Char.isDigit = rest := by
  rw [List.dropWhile_append_of_pos hds]
  cases rest with
  | nil => rfl
  | cons c rest =>
    rw [List.dropWhile_cons_of_neg (by rw [hrest c rfl]; exact Bool.false_ne_true)]

theorem isDigit_of_isLetter (h : IsLetter c) : c.isDigit = false := by
  obtain rfl | rfl := h <;> rfl

/-! ### Powers -/

theorem takeSign_of_digits (hne : ds ≠ []) (hds : AllDigits ds) : takeSign ds = (false, ds) := by
  obtain ⟨d, ds, rfl⟩ := List.exists_cons_of_ne_nil hne
  have hd := hds d List.mem_cons_self
  unfold takeSign
  split
  · next heq =>
    cases heq
    cases hd
  · next heq =>
    cases heq
    cases hd
  · rfl

theorem exists_readPower?_of_sign {e : Char} {negative : Bool} (he : IsLetter e)
    (hsign : takeSign cs = (negative, ds)) (hne : ds ≠ []) (hds : AllDigits ds) :
    ∃ k, readPower? (e :: cs) = some k := by
  have hletter : e = 'e' ∨ e = 'E' := he
  have hdigits : ds ≠ [] ∧ ds.all Char.isDigit = true := ⟨hne, List.all_eq_true.mpr hds⟩
  unfold readPower?
  simp only [hsign, if_pos hletter, if_pos hdigits]
  exact ⟨_, rfl⟩

theorem IsPower.exists_readPower? (h : IsPower p) : ∃ k, readPower? p = some k := by
  cases h with
  | unsigned he hne hds =>
    exact exists_readPower?_of_sign he (takeSign_of_digits hne hds) hne hds
  | signed he hs hne hds =>
    obtain rfl | rfl := hs
    · exact exists_readPower?_of_sign he rfl hne hds
    · exact exists_readPower?_of_sign he rfl hne hds

theorem IsOpenPower.readPower?_eq_none (h : IsOpenPower p) : readPower? p = none := by
  obtain ⟨rfl | rfl, rfl | rfl⟩ := h <;> rfl

/-- What a mantissa is followed by: nothing, or the letter of a power. -/
def Powered (rest : List Char) : Prop := ∀ c ∈ rest.head?, IsLetter c

theorem Powered.stops (h : Powered rest) : Stops rest := fun c hc => isDigit_of_isLetter (h c hc)

theorem IsPower.powered (h : IsPower p) : Powered p := by
  cases h with
  | unsigned he =>
    intro c hc
    cases hc
    exact he
  | signed he =>
    intro c hc
    cases hc
    exact he

theorem IsOpenPower.powered (h : IsOpenPower p) : Powered p := by
  cases h with
  | intro he =>
    intro c hc
    cases hc
    exact he

/-! ### Decimals -/

/-- The text starts with a digit or a point. -/
def Begins (cs : List Char) : Prop := ∃ c rest, cs = c :: rest ∧ (c.isDigit = true ∨ c = '.')

theorem begins_digits (hne : ds ≠ []) (hds : AllDigits ds) (rest : List Char) :
    Begins (ds ++ rest) := by
  obtain ⟨d, ds, rfl⟩ := List.exists_cons_of_ne_nil hne
  exact ⟨d, ds ++ rest, rfl, .inl (hds d List.mem_cons_self)⟩

theorem begins_point (hds : AllDigits ds) (rest : List Char) : Begins (ds ++ '.' :: rest) := by
  cases ds with
  | nil => exact ⟨'.', rest, rfl, .inr rfl⟩
  | cons d ds => exact begins_digits (List.cons_ne_nil d ds) hds _

theorem Begins.takeSign_eq (h : Begins cs) : takeSign cs = (false, cs) := by
  obtain ⟨c, rest, rfl, hc⟩ := h
  unfold takeSign
  split
  · next heq =>
    cases heq
    rcases hc with hc | hc <;> cases hc
  · next heq =>
    cases heq
    rcases hc with hc | hc <;> cases hc
  · rfl

theorem toLower_of_isDigit (h : c.isDigit = true) : c.toLower = c := by
  unfold Char.toLower
  split
  · next hupper =>
    simp [Char.isDigit, UInt32.le_iff_toNat_le] at h hupper
    omega
  · rfl

/-- A text that starts with a digit or a point is no word, in any case of letters. -/
theorem Begins.map_toLower_ne (h : Begins cs) {w : Char} (hw : w.isDigit = false ∧ w ≠ '.')
    (word : List Char) : cs.map Char.toLower ≠ w :: word := by
  obtain ⟨c, rest, rfl, hc⟩ := h
  intro heq
  have hlower : c.toLower = w := (List.cons.inj heq).1
  rcases hc with hc | rfl
  · rw [toLower_of_isDigit hc] at hlower
    rw [hlower, hw.1] at hc
    cases hc
  · exact hw.2 hlower.symm

theorem Begins.not_infinite (h : Begins cs) :
    ¬(cs.map Char.toLower = "inf".toList ∨ cs.map Char.toLower = "infinity".toList) :=
  not_or.mpr ⟨h.map_toLower_ne (w := 'i') (by decide) ['n', 'f'],
    h.map_toLower_ne (w := 'i') (by decide) ['n', 'f', 'i', 'n', 'i', 't', 'y']⟩

theorem Begins.not_nan (h : Begins cs) : ¬cs.map Char.toLower = "nan".toList :=
  h.map_toLower_ne (w := 'n') (by decide) ['a', 'n']

theorem exists_read?_point (hds : AllDigits ds) (hfs : AllDigits fs) (hne : ¬(ds = [] ∧ fs = []))
    (hrest : Stops rest) :
    ∃ f : Int → Float, read? (ds ++ '.' :: (fs ++ rest)) = (readPower? rest).map f := by
  have hbegins := begins_point hds (fs ++ rest)
  have hpoint : Stops ('.' :: (fs ++ rest)) := stops_cons rfl
  refine ⟨fun power => nearestScaled false (ofDigits (ds ++ fs)) (power - fs.length), ?_⟩
  simp only [read?, hbegins.takeSign_eq, takeWhile_digits hds hpoint, dropWhile_digits hds hpoint,
    takeWhile_digits hfs hrest, dropWhile_digits hfs hrest]
  rw [if_neg hbegins.not_infinite, if_neg hbegins.not_nan, if_neg hne]
  cases readPower? rest <;> rfl

theorem exists_read?_fraction (hne : fs ≠ []) (hfs : AllDigits fs) (hrest : Stops rest) :
    ∃ f : Int → Float, read? ('.' :: (fs ++ rest)) = (readPower? rest).map f :=
  exists_read?_point allDigits_nil hfs (fun h => hne h.2) hrest

theorem exists_read?_whole (hne : ds ≠ []) (hds : AllDigits ds) (hrest : Powered rest) :
    ∃ f : Int → Float, read? (ds ++ rest) = (readPower? rest).map f := by
  have hbegins := begins_digits hne hds rest
  have hwhole : ¬(ds = [] ∧ ([] : List Char) = []) := fun h => hne h.1
  refine ⟨fun power => nearestScaled false (ofDigits (ds ++ [])) (power - ([] : List Char).length),
    ?_⟩
  simp only [read?, hbegins.takeSign_eq, takeWhile_digits hds hrest.stops,
    dropWhile_digits hds hrest.stops]
  rw [if_neg hbegins.not_infinite, if_neg hbegins.not_nan]
  cases rest with
  | nil => exact (if_neg hwhole).trans Option.map_eq_bind.symm
  | cons c rest =>
    obtain rfl | rfl := hrest c rfl
    all_goals exact (if_neg hwhole).trans Option.map_eq_bind.symm

theorem IsMantissa.exists_read?_eq (hm : IsMantissa m) (hp : Powered p) :
    ∃ f : Int → Float, read? (m ++ p) = (readPower? p).map f := by
  cases hm with
  | whole hne hds => exact exists_read?_whole hne hds hp
  | point hne hds hfs =>
    rw [List.append_assoc, List.cons_append]
    exact exists_read?_point hds hfs (fun h => hne h.1) hp.stops
  | fraction hne hfs => exact exists_read?_fraction hne hfs hp.stops

theorem IsDecimal.exists_read? (h : IsDecimal cs) : ∃ x, read? cs = some x := by
  cases h with
  | plain hm =>
    obtain ⟨f, hf⟩ := hm.exists_read?_eq (p := []) nofun
    exact ⟨f 0, by rw [← List.append_nil cs, hf]; rfl⟩
  | scaled hm hp =>
    obtain ⟨f, hf⟩ := hm.exists_read?_eq hp.powered
    obtain ⟨k, hk⟩ := hp.exists_readPower?
    exact ⟨f k, by rw [hf, hk]; rfl⟩

theorem IsMalformed.read?_eq_none (h : IsMalformed cs) : read? cs = none := by
  cases h with
  | @points fs gs p hne hfs hgs hp =>
    have hrest : Stops ('.' :: (gs ++ p)) := stops_cons rfl
    obtain ⟨f, hf⟩ := exists_read?_fraction hne hfs hrest
    have happend : '.' :: fs ++ '.' :: gs ++ p = '.' :: (fs ++ '.' :: (gs ++ p)) := by
      simp only [List.cons_append, List.append_assoc]
    rw [happend, hf]
    rfl
  | power hm hp =>
    obtain ⟨f, hf⟩ := hm.exists_read?_eq hp.powered
    rw [hf, hp.readPower?_eq_none]
    rfl

end ScriptBridge.Decimal
