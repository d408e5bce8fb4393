import TdsClient.Proofs.Text.Decoding

/-!
# Cutting texts with surrogates

A text that is cut in UTF-16 is written, cut after some code units, and read
again. If there is no surrogate among the code points that fit, these are
what is read: the first half of a pair that was cut is left out. A surrogate
is never read, so that a front with one of them is not what is read.

## Main results

* `Utf16.decodes_decode` — what is read, by the rule for all code pages.
* `Points.cut_eq_take` — what is left of a text that is cut.
* `Inference.encodePoints_eq` — what is sent in a code page.
-/

namespace TdsClient.Text

namespace Utf16

/-! ## Code units of characters -/

/-- A character that is made of a number has that number. -/
theorem toNat_ofNat {n : Nat} (h : n.isValidChar) : (Char.ofNat n).toNat = n := by
  have hchar : Char.ofNat n = Char.ofNatAux n h := dif_pos h
  rw [hchar]
  rfl

/-- The number of a character is the number of no surrogate. -/
theorem not_isHalf_toNat (c : Char) : isHigh c.toNat = false ∧ isLow c.toNat = false := by
  have hc : c.toNat < 0xd800 ∨ 0xdfff < c.toNat ∧ c.toNat < 0x110000 := c.valid
  constructor <;> rw [← Bool.not_eq_true] <;> simp only [isHigh, isLow, decide_eq_true_eq] <;> omega

/-- The two units of a character make a pair, which stands for it. -/
theorem pair_of_units {c : Char} {high low : Nat} (h : units c = [high, low]) :
    isHigh high = true ∧ isLow low = true ∧ ofPair high low = c := by
  have hc : c.toNat < 0xd800 ∨ 0xdfff < c.toNat ∧ c.toNat < 0x110000 := c.valid
  unfold units at h
  split at h
  · cases h
  next hlarge =>
    obtain ⟨rfl, rest⟩ := List.cons.inj h
    obtain rfl := (List.cons.inj rest).1
    have hnumber : 0x10000 + (0xd800 + (c.toNat - 0x10000) / 0x400 - 0xd800) * 0x400 +
        (0xdc00 + (c.toNat - 0x10000) % 0x400 - 0xdc00) = c.toNat := by omega
    refine ⟨decide_eq_true (by omega), decide_eq_true (by omega), ?_⟩
    rw [ofPair, hnumber, Char.ofNat_toNat]

/-- A character has its number for a unit, or the two units of a pair. -/
theorem units_cases (c : Char) : units c = [c.toNat] ∨ ∃ high low, units c = [high, low] := by
  unfold units
  split
  · exact .inl rfl
  · exact .inr ⟨_, _, rfl⟩

/-- A character is read from its units. -/
theorem decode_units_append (c : Char) (rest : List Nat) :
    decode (units c ++ rest) = c :: decode rest := by
  rcases units_cases c with hone | ⟨high, low, htwo⟩
  · obtain ⟨hhigh, hlow⟩ := not_isHalf_toNat c
    rw [hone]
    cases rest with
    | nil => simp [decode, hhigh, hlow]
    | cons next rest => simp [decode, hhigh, hlow]
  · obtain ⟨hhigh, hlow, hpair⟩ := pair_of_units htwo
    rw [htwo]
    simp [decode, hhigh, hlow, hpair]

/-! ## Bytes -/

open Charset

/-- At a half of a pair without the other half there are no units of a character. -/
theorem not_units_prefix {unit : Nat} {rest : List Nat} (hhalf : (isHigh unit || isLow unit) = true)
    (hpair : ∀ low tail, rest = low :: tail → ¬ (isHigh unit && isLow low) = true) (c : Char) :
    ¬ units c <+: unit :: rest := by
  intro hprefix
  rcases units_cases c with hone | ⟨high, low, htwo⟩
  · rw [hone, List.cons_prefix_cons] at hprefix
    obtain ⟨hhigh, hlow⟩ := not_isHalf_toNat c
    rw [← hprefix.1, hhigh, hlow] at hhalf
    cases hhalf
  · rw [htwo, List.cons_prefix_cons] at hprefix
    obtain ⟨tail, htail⟩ := hprefix.2
    obtain ⟨hhigh, hlow, -⟩ := pair_of_units htwo
    refine hpair low tail htail.symm ?_
    rw [← hprefix.1, hhigh, hlow]
    rfl

/-- A half of a pair without the other half is left out. -/
theorem decodes_half {unit : Nat} {rest : List Nat} {text : List Char}
    (hlist : ∀ u ∈ unit :: rest, u < 0x10000) (hhalf : (isHigh unit || isLow unit) = true)
    (hpair : ∀ low tail, rest = low :: tail → ¬ (isHigh unit && isLow low) = true)
    (hrest : utf16le.Decodes (rest.flatMap unitBytes) text) :
    utf16le.Decodes ((unit :: rest).flatMap unitBytes) text := by
  refine .skip (by simp [unitBytes]) (fun c piece hpiece hprefix => ?_) ?_
  · cases hpiece
    exact not_units_prefix hhalf hpair c
      (prefix_of_flatMap_unitBytes (units_lt c) hlist hprefix)
  · exact (drop_flatMap_unitBytes 1 (unit :: rest)).symm ▸ hrest

/-- A unit that is no half of a pair is read as the character of its number. -/
theorem decodes_unit {unit : Nat} {rest : List Nat} {text : List Char} (hunit : unit < 0x10000)
    (hwhole : ¬ (isHigh unit || isLow unit) = true)
    (hrest : utf16le.Decodes (rest.flatMap unitBytes) text) :
    utf16le.Decodes ((unit :: rest).flatMap unitBytes) (Char.ofNat unit :: text) := by
  have hunits : units (Char.ofNat unit) = [unit] := by
    simp only [isHigh, isLow, Bool.or_eq_true, decide_eq_true_eq] at hwhole
    have hvalid : unit.isValidChar := by
      unfold Nat.isValidChar
      omega
    rw [units, toNat_ofNat hvalid, if_pos hunit]
  have hpiece : utf16le.encode? (Char.ofNat unit) = some (unitBytes unit) := by
    show some ((units (Char.ofNat unit)).flatMap unitBytes) = _
    rw [hunits, List.flatMap_singleton]
  exact .char hpiece hrest

/-- The two halves of a pair are the units of its character. -/
theorem units_ofPair {high low : Nat} (hpair : (isHigh high && isLow low) = true) :
    units (ofPair high low) = [high, low] := by
  simp only [isHigh, isLow, Bool.and_eq_true, decide_eq_true_eq] at hpair
  have hvalid : (0x10000 + (high - 0xd800) * 0x400 + (low - 0xdc00)).isValidChar := by
    unfold Nat.isValidChar
    omega
  have hnumber : (ofPair high low).toNat = 0x10000 + (high - 0xd800) * 0x400 + (low - 0xdc00) :=
    toNat_ofNat hvalid
  have hfirst : 0xd800 + ((ofPair high low).toNat - 0x10000) / 0x400 = high := by omega
  have hsecond : 0xdc00 + ((ofPair high low).toNat - 0x10000) % 0x400 = low := by omega
  rw [units, if_neg (by omega)]
  dsimp only
  rw [hfirst, hsecond]

/-- Two halves that meet are read as the character of the pair. -/
theorem decodes_pair {high low : Nat} {rest : List Nat} {text : List Char}
    (hpair : (isHigh high && isLow low) = true)
    (hrest : utf16le.Decodes (rest.flatMap unitBytes) text) :
    utf16le.Decodes ((high :: low :: rest).flatMap unitBytes) (ofPair high low :: text) := by
  have hpiece : utf16le.encode? (ofPair high low) = some (unitBytes high ++ unitBytes low) := by
    show some ((units (ofPair high low)).flatMap unitBytes) = _
    rw [units_ofPair hpair, List.flatMap_cons, List.flatMap_singleton]
  have hread := Decodes.char hpiece hrest
  rwa [List.append_assoc] at hread

/-- What code units are read as is what their bytes stand for where everything is ignored that is no
character. -/
theorem decodes_decode (list : List Nat) (hlist : ∀ unit ∈ list, unit < 0x10000) :
    utf16le.Decodes (list.flatMap unitBytes) (decode list) := by
  fun_induction decode list with
  | case1 => exact .nil
  | case2 unit hhalf => exact decodes_half hlist hhalf (fun _ _ hnone => nomatch hnone) .nil
  | case3 unit hwhole => exact decodes_unit (hlist unit List.mem_cons_self) hwhole .nil
  | case4 high low rest hpair ih =>
      have hrest := ih fun u hu => hlist u (List.mem_cons_of_mem _ (List.mem_cons_of_mem _ hu))
      exact decodes_pair hpair hrest
  | case5 unit next rest hpair hhalf ih =>
      have hrest := ih fun u hu => hlist u (List.mem_cons_of_mem _ hu)
      refine decodes_half hlist hhalf (fun low tail hnext => ?_) hrest
      cases hnext
      exact hpair
  | case6 unit next rest hpair hwhole ih =>
      have hrest := ih fun u hu => hlist u (List.mem_cons_of_mem _ hu)
      exact decodes_unit (hlist unit List.mem_cons_self) hwhole hrest

end Utf16

/-! ## Texts that are cut -/

namespace Points

/-- Whether a text has nothing but characters. -/
def IsPlain (text : Points) : Prop := ∀ index, CodePoint.surrogate index ∉ text

theorem isPlain_ofList (text : List Char) : (ofList text).IsPlain := by
  intro index hmem
  obtain ⟨c, -, hc⟩ := List.mem_map.1 hmem
  cases hc

theorem units_lt (text : Points) : ∀ unit ∈ units text, unit < 0x10000 := by
  intro unit hunit
  obtain ⟨p, -, hp⟩ := List.mem_flatMap.1 hunit
  cases p with
  | character c => exact Charset.units_lt c unit hp
  | surrogate index =>
      have hindex := index.isLt
      rw [List.mem_singleton.1 hp, CodePoint.firstSurrogate]
      omega

/-- At most the first half of a pair is left of a code point that does not fit, and it is not
read. -/
theorem decode_take_units {p : CodePoint} {space : Nat} (h : space < p.size) :
    Utf16.decode (p.units.take space) = [] := by
  cases p with
  | surrogate index =>
      obtain rfl : space = 0 := Nat.lt_one_iff.1 h
      rfl
  | character c =>
      have hsize : (CodePoint.character c).size ≤ 2 := Utf16.size_le_two c
      rcases space with _ | _ | space
      · rfl
      · rcases Utf16.units_cases c with hone | ⟨high, low, htwo⟩
        · have hsingle : (CodePoint.character c).size = 1 := by
            rw [← CodePoint.length_units, CodePoint.units, hone, List.length_singleton]
          omega
        · have hhigh := (Utf16.pair_of_units htwo).1
          rw [CodePoint.units, htwo]
          simp [Utf16.decode, hhigh]
      · omega

/-- If there is no surrogate among the code points that fit, they are what is read when the others
are cut. -/
theorem ofList_decode_take {text : Points} {space : Nat}
    (h : IsPlain (Fitting.take CodePoint.size space text)) :
    ofList (Utf16.decode ((units text).take space)) = Fitting.take CodePoint.size space text := by
  induction text generalizing space with
  | nil => simp [units, Fitting.take, Utf16.decode, ofList]
  | cons p rest ih =>
      have hunits : units (p :: rest) = p.units ++ units rest := rfl
      rw [Fitting.take] at h ⊢
      by_cases hfits : p.size ≤ space
      · rw [if_pos hfits] at h ⊢
        cases p with
        | surrogate index => exact absurd List.mem_cons_self (h index)
        | character c =>
            have hplain : IsPlain
                (Fitting.take CodePoint.size (space - (CodePoint.character c).size) rest) :=
              fun index hmem => h index (List.mem_cons_of_mem _ hmem)
            have hlength := CodePoint.length_units (.character c)
            rw [hunits, List.take_append, List.take_of_length_le (hlength ▸ hfits), hlength]
            show ofList (Utf16.decode (Utf16.units c ++ _)) = _
            rw [Utf16.decode_units_append]
            exact congrArg (CodePoint.character c :: ·) (ih hplain)
      · have hshort := CodePoint.length_units p
        rw [if_neg hfits, hunits, List.take_append_of_le_length (by omega),
          decode_take_units (Nat.lt_of_not_le hfits)]
        rfl

/-- If there is no surrogate among the code points that fit, a text is cut behind them. -/
theorem cut_eq_take {text : Points} {space : Nat}
    (h : IsPlain (Fitting.take CodePoint.size space text)) :
    text.cut space = Fitting.take CodePoint.size space text := by
  unfold cut
  by_cases hlong : space < text.units.length
  · rw [if_pos hlong, ofList_decode_take h]
  · rw [length_units] at hlong
    rw [length_units, if_neg hlong,
      Fitting.take_eq_self CodePoint.size space text (Nat.le_of_not_lt hlong)]

/-- The characters of a text that fit are the code points that fit. -/
theorem take_ofList (space : Nat) (text : List Char) :
    Fitting.take CodePoint.size space (ofList text) =
      ofList (Fitting.take Utf16.size space text) := by
  induction text generalizing space with
  | nil => rfl
  | cons c rest ih =>
      show Fitting.take CodePoint.size space (.character c :: ofList rest) = _
      rw [Fitting.take, Fitting.take, ih]
      show (if Utf16.size c ≤ space then _ else _) = _
      split <;> rfl

/-- A text of characters is cut after the last one that fits. -/
theorem cut_ofString (space : Nat) (s : String) :
    (ofString s).cut space = ofList (Fitting.take Utf16.size space s.toList) := by
  have htake := take_ofList space s.toList
  rw [ofString, cut_eq_take (htake ▸ isPlain_ofList _), htake]

end Points

end TdsClient.Text

namespace TdsClient.Inference

open Text

/-- A text of characters is encoded as such. -/
@[simp]
theorem encodePoints_ofString (i : Inference) (s : String) :
    i.encodePoints (.ofString s) = i.encodeText s := by
  rw [encodePoints, Points.toString?_ofString]

/-- Of a text of characters the missing ones are reported. -/
theorem losses_ofString (i : Inference) (s : String) :
    (Points.ofString s).filterMap i.loss? =
      (i.charset.missing s).map (.unrepresentable · i.charset.name) := by
  unfold Points.ofString Points.ofList Charset.missing
  induction s.toList with
  | nil => rfl
  | cons c rest ih =>
      have hloss : i.loss? (.character c) =
          if i.charset.has c then none else some (.unrepresentable c i.charset.name) := rfl
      rw [List.map_cons, List.filterMap_cons, List.filter_cons, hloss, ih]
      by_cases hhas : i.charset.has c = true
      · simp [hhas]
      · simp [hhas]

/-- A text that may hold surrogates is sent in a known code page with a stand-in for each code point
that is missing there, which is reported; the size is the number of bytes of what is sent. -/
theorem encodePoints_eq (i : Inference) (hknown : i.charset.isKnown = true) (text : Points) :
    ∃ bytes, i.charset.encodeText? (String.ofList (text.map i.charset.standIn)) = some bytes ∧
      i.encodePoints text = ⟨text.filterMap i.loss?,
        .ok (String.ofList (text.map i.charset.standIn), bytes.length)⟩ := by
  cases hplain : text.toString? with
  | some s =>
      obtain rfl := Points.eq_ofString hplain
      have hsent : String.ofList ((Points.ofString s).map i.charset.standIn) =
          i.charset.substitute s := congrArg String.ofList (List.map_map ..)
      rw [encodePoints_ofString, losses_ofString, hsent]
      exact i.encodeText_eq hknown s
  | none =>
      have hhas : i.charset.missing (String.ofList (text.map i.charset.standIn)) = [] := by
        rw [i.charset.missing_eq_nil_iff, String.toList_ofList]
        intro c hc
        obtain ⟨p, -, rfl⟩ := List.mem_map.1 hc
        exact i.charset.has_standIn hknown p
      obtain ⟨bytes, hbytes, hlength⟩ := i.charset.encodeText?_of_has _ hhas
      refine ⟨bytes, hbytes, ?_⟩
      unfold encodePoints
      rw [hplain, hknown, hlength, String.toList_ofList]
      exact Reported.warn_bind_pure _ _

end TdsClient.Inference
