import SynchroSonic.Discovery.Advertisement
import SynchroSonic.Machine.Trim

/-!
# Labels of the domain name system

`sanitized_dns_label` replaces what a label may not contain by hyphens, removes the hyphens on both sides,
and cuts the rest off behind 63 characters. The cut comes last, and what it leaves may end with a hyphen
again (`sanitizedDnsLabel_isDnsLabel_iff`).
-/

namespace SynchroSonic

/-- What may stand between two dots of a domain name, in lower case. -/
structure IsDnsLabel (label : String) : Prop where
  nonempty : label.toList ≠ []
  length : label.toList.length ≤ 63
  chars : ∀ char ∈ label.toList, char.isLower = true ∨ char.isDigit = true ∨ char = '-'
  first : label.toList.head? ≠ some '-'
  last : label.toList.getLast? ≠ some '-'

/-- The 63rd character from the first letter or digit on is neither, and there is another one behind it. -/
def CutAtHyphen (value : String) : Prop :=
  let chars := value.toList.dropWhile fun char ↦ !char.isAlphanum
  (∃ char, chars[62]? = some char ∧ char.isAlphanum = false) ∧
    ∃ char ∈ chars.drop 63, char.isAlphanum = true

/-! ### One character -/

section Chars

variable {char : Char}

theorem toNat_lt_of_isAlphanum (h : char.isAlphanum = true) : char.toNat < 128 := by
  have hranges : (char.isUpper || char.isLower || char.isDigit) = true := h
  simp only [Bool.or_eq_true] at hranges
  -- The lower case comes last.
  have hle : char.val ≤ 'z'.val := by
    rcases hranges with (hupper | hlower) | hdigit
    · have hrange : 'A'.val ≤ char.val ∧ char.val ≤ 'Z'.val := of_decide_eq_true hupper
      exact UInt32.le_trans hrange.2 (by decide)
    · exact of_decide_eq_true (Bool.and_eq_true_iff.1 hlower).2
    · have hrange : char.val ≤ '9'.val := of_decide_eq_true (Bool.and_eq_true_iff.1 hdigit).2
      exact UInt32.le_trans hrange (by decide)
  exact lt_of_le_of_lt (UInt32.le_iff_toNat_le.1 hle) (by decide)

/-- What holds of every letter and digit is found out by trying them. -/
theorem of_isAlphanum {P : Char → Prop}
    (hall : ∀ n : Fin 128, (Char.ofNat n).isAlphanum = true → P (Char.ofNat n))
    (h : char.isAlphanum = true) : P char := by
  have hchar := hall ⟨char.toNat, toNat_lt_of_isAlphanum h⟩
  rw [Char.ofNat_toNat] at hchar
  exact hchar h

theorem dnsChar_of_isAlphanum (h : char.isAlphanum = true) :
    (dnsChar char).isLower = true ∨ (dnsChar char).isDigit = true :=
  @of_isAlphanum char (fun char ↦ (dnsChar char).isLower = true ∨ (dnsChar char).isDigit = true)
    (by decide) h

theorem dnsChar_of_not_isAlphanum (h : char.isAlphanum = false) : dnsChar char = '-' := by
  rw [dnsChar, h, Bool.false_or]
  split
  next hhyphen =>
    rw [beq_iff_eq.mp hhyphen]
    rfl
  next => rfl

/-- Hyphens stand for what is no letter and no digit. -/
theorem dnsChar_beq_hyphen (char : Char) : (dnsChar char == '-') = !char.isAlphanum := by
  rcases h : char.isAlphanum with - | -
  · rw [dnsChar_of_not_isAlphanum h]
    rfl
  · exact @of_isAlphanum char (fun char ↦ (dnsChar char == '-') = false) (by decide) h

theorem dnsChar_of_label (h : char.isLower = true ∨ char.isDigit = true ∨ char = '-') :
    dnsChar char = char := by
  have hstays (halphanum : char.isAlphanum = true)
      (hchar : char.isLower = true ∨ char.isDigit = true) : dnsChar char = char :=
    @of_isAlphanum char (fun char ↦ char.isLower = true ∨ char.isDigit = true → dnsChar char = char)
      (by decide) halphanum hchar
  rcases h with hlower | hdigit | rfl
  · refine hstays ?_ (Or.inl hlower)
    show (char.isUpper || char.isLower || char.isDigit) = true
    rw [hlower, Bool.or_true, Bool.true_or]
  · refine hstays ?_ (Or.inr hdigit)
    show (char.isUpper || char.isLower || char.isDigit) = true
    rw [hdigit, Bool.or_true]
  · rfl

end Chars

/-! ### The label -/

section Label

variable {value : String}

/-- What is left between the hyphens. -/
def dnsChars (value : String) : List Char := trimHyphens (value.toList.map dnsChar)

theorem dnsChars_eq (value : String) :
    dnsChars value = (Trim.trim (fun char ↦ !char.isAlphanum) value.toList).map dnsChar := by
  have htrim : trimHyphens (value.toList.map dnsChar) =
      Trim.trim (· == '-') (value.toList.map dnsChar) := rfl
  simp only [dnsChars, htrim, Trim.trim_map, dnsChar_beq_hyphen]

theorem toList_sanitizedDnsLabel (value : String) : (sanitizedDnsLabel value).toList =
    if (dnsChars value).isEmpty then "synchrosonic-device".toList else (dnsChars value).take 63 := by
  show (if (dnsChars value).isEmpty then "synchrosonic-device"
    else String.ofList ((dnsChars value).take 63)).toList = _
  split
  · rfl
  · exact String.toList_ofList

theorem isDnsLabel_default : IsDnsLabel "synchrosonic-device" := by
  have hchars : ("synchrosonic-device".toList.all fun char ↦
      char.isLower || (char.isDigit || char == '-')) = true := by decide
  refine ⟨by decide, by decide, ?_, by decide, by decide⟩
  simpa only [List.all_eq_true, Bool.or_eq_true, beq_iff_eq] using hchars

/-- **A label stays as it is.** -/
theorem sanitizedDnsLabel_of_isDnsLabel (h : IsDnsLabel value) : sanitizedDnsLabel value = value := by
  have hmap : value.toList.map dnsChar = value.toList :=
    (List.map_congr_left fun char hmem ↦ dnsChar_of_label (h.chars char hmem)).trans
      (List.map_id' _)
  have htrim : Trim.trim (· == '-') value.toList = value.toList := by
    refine Trim.trim_eq_self (fun char hfirst ↦ ?_) (fun char hlast ↦ ?_)
    · rw [beq_eq_false_iff_ne]
      exact fun heq ↦ h.first (heq ▸ hfirst)
    · rw [beq_eq_false_iff_ne]
      exact fun heq ↦ h.last (heq ▸ hlast)
  have hchars : dnsChars value = value.toList := by
    rw [dnsChars, hmap]
    exact htrim
  rw [← String.toList_inj, toList_sanitizedDnsLabel, hchars,
    if_neg fun hempty ↦ h.nonempty (List.isEmpty_iff.mp hempty), List.take_of_length_le h.length]

/-- Neither side of what is left between the hyphens is a hyphen. -/
theorem dnsChars_ends : (dnsChars value).head? ≠ some '-' ∧ (dnsChars value).getLast? ≠ some '-' := by
  have hkept {char : Char} (h : (!char.isAlphanum) = false) : dnsChar char ≠ '-' := by
    rw [← beq_eq_false_iff_ne, dnsChar_beq_hyphen]
    exact h
  rw [dnsChars_eq, List.head?_map, List.getLast?_map]
  constructor
  · intro hfirst
    obtain ⟨char, hchar, hhyphen⟩ := Option.map_eq_some_iff.mp hfirst
    exact hkept (@Trim.first_trim Char (fun char ↦ !char.isAlphanum) _ _ hchar) hhyphen
  · intro hlast
    obtain ⟨char, hchar, hhyphen⟩ := Option.map_eq_some_iff.mp hlast
    exact hkept (@Trim.last_trim Char (fun char ↦ !char.isAlphanum) _ _ hchar) hhyphen

theorem getElem?_dnsChars : (dnsChars value)[62]? = some '-' ↔ CutAtHyphen value := by
  have hhyphen (char : Char) : dnsChar char = '-' ↔ char.isAlphanum = false := by
    rw [← beq_iff_eq, dnsChar_beq_hyphen, Bool.not_eq_true']
  rw [dnsChars_eq, List.getElem?_map, Option.map_eq_some_iff]
  constructor
  · rintro ⟨char, hchar, hnone⟩
    obtain ⟨hget, other, hmem, hother⟩ := Trim.getElem?_trim.mp hchar
    rw [hhyphen] at hnone
    refine ⟨⟨char, hget, hnone⟩, other, ?_, by rwa [Bool.not_eq_false'] at hother⟩
    -- the other one is not this one
    obtain ⟨hlt, hat⟩ := List.getElem?_eq_some_iff.mp hget
    rw [List.drop_eq_getElem_cons hlt, hat, List.mem_cons] at hmem
    rcases hmem with rfl | hmem
    · rw [hnone] at hother
      exact absurd hother.symm Bool.false_ne_true
    · exact hmem
  · rintro ⟨⟨char, hget, hnone⟩, other, hmem, hother⟩
    refine ⟨char, Trim.getElem?_trim.mpr ⟨hget, other, ?_, by rw [hother]; rfl⟩, (hhyphen char).mpr hnone⟩
    obtain ⟨hlt, -⟩ := List.getElem?_eq_some_iff.mp hget
    rw [List.drop_eq_getElem_cons hlt]
    exact List.mem_cons_of_mem _ hmem

/-- A hyphen at the end comes from the cut. -/
theorem getLast?_take_dnsChars :
    ((dnsChars value).take 63).getLast? = some '-' ↔ CutAtHyphen value := by
  rw [List.getLast?_take, if_neg (by decide), Option.or_eq_some_iff, ← getElem?_dnsChars]
  exact or_iff_left fun hlast ↦ dnsChars_ends.2 hlast.2

theorem sanitizedDnsLabel_isDnsLabel (h : ¬CutAtHyphen value) :
    IsDnsLabel (sanitizedDnsLabel value) := by
  have htoList := toList_sanitizedDnsLabel value
  rcases hempty : (dnsChars value).isEmpty with - | -
  · rw [hempty, if_neg Bool.false_ne_true] at htoList
    have hne : dnsChars value ≠ [] := fun hnil ↦
      absurd (hempty.symm.trans (List.isEmpty_iff.mpr hnil)) Bool.false_ne_true
    refine ⟨?_, ?_, ?_, ?_, ?_⟩
    · rw [htoList, Ne, List.take_eq_nil_iff]
      rintro (hzero | hnil)
      · cases hzero
      · exact hne hnil
    · rw [htoList]
      exact List.length_take_le _ _
    · intro char hmem
      rw [htoList, dnsChars_eq] at hmem
      obtain ⟨original, -, rfl⟩ := List.mem_map.mp (List.mem_of_mem_take hmem)
      rcases horiginal : original.isAlphanum with - | -
      · exact Or.inr (Or.inr (dnsChar_of_not_isAlphanum horiginal))
      · exact (dnsChar_of_isAlphanum horiginal).imp_right Or.inl
    · rw [htoList, List.head?_take, if_neg (by decide)]
      exact dnsChars_ends.1
    · rw [htoList]
      exact fun hlast ↦ h (getLast?_take_dnsChars.mp hlast)
  · have hdefault : sanitizedDnsLabel value = "synchrosonic-device" := by
      rw [← String.toList_inj, htoList, hempty, if_pos rfl]
    rw [hdefault]
    exact isDnsLabel_default

end Label

/-- **A valid label, that is left as it is from then on**, unless it is cut off behind a hyphen. -/
theorem sanitizedDnsLabel_isDnsLabel_iff (value : String) :
    (IsDnsLabel (sanitizedDnsLabel value) ∧
      sanitizedDnsLabel (sanitizedDnsLabel value) = sanitizedDnsLabel value) ↔ ¬CutAtHyphen value := by
  constructor
  · rintro ⟨hlabel, -⟩ hcut
    have hlast := getLast?_take_dnsChars.mpr hcut
    have htoList := toList_sanitizedDnsLabel value
    split at htoList
    next hempty =>
      rw [List.isEmpty_iff.mp hempty] at hlast
      cases hlast
    next =>
      refine hlabel.last ?_
      rw [htoList, hlast]
  · intro h
    have hlabel := sanitizedDnsLabel_isDnsLabel h
    exact ⟨hlabel, sanitizedDnsLabel_of_isDnsLabel hlabel⟩

namespace Sample

/-- A name that is too long by two characters. -/
def longName : String := String.ofList (List.replicate 62 'a') ++ " room"

end Sample

/-- **A label that ends with a hyphen**, and without it when it is sanitized again. -/
theorem sanitizedDnsLabel_longName : ¬∀ value : String, IsDnsLabel (sanitizedDnsLabel value) ∧
    sanitizedDnsLabel (sanitizedDnsLabel value) = sanitizedDnsLabel value := by
  intro h
  have hlast := (h Sample.longName).1.last
  exact absurd hlast (by decide +kernel)

end SynchroSonic
