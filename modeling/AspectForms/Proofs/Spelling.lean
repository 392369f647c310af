import AspectForms.Text.Words

/-!
Characters of derived names.  Main statements: a name in kebab case, whatever script the original is
written in, holds nothing that means something in a path, and one in camel case holds no quote.
-/

namespace AspectForms.Text

/-- A character that has no meaning in a path. -/
def IsPathSafe (c : Char) : Prop :=
  c ≠ '/' ∧ c ≠ '\\' ∧ c ≠ '.' ∧ c ≠ '\x00'

instance (c : Char) : Decidable (IsPathSafe c) :=
  inferInstanceAs (Decidable (_ ∧ _))

/-- A text without characters that mean something in a path. -/
def PathSafe (s : String) : Prop := ∀ c ∈ s.toList, IsPathSafe c

theorem mem_joinWith {sep : Char} {ws : List (List Char)} {c : Char}
    (h : c ∈ joinWith sep ws) : c = sep ∨ ∃ w ∈ ws, c ∈ w := by
  induction ws with
  | nil => cases h
  | cons w ws ih =>
      cases ws with
      | nil => exact .inr ⟨w, List.mem_cons_self, h⟩
      | cons v vs =>
          rw [joinWith, List.mem_append, List.mem_cons] at h
          · rcases h with hw | rfl | hrest
            · exact .inr ⟨w, List.mem_cons_self, hw⟩
            · exact .inl rfl
            · rcases ih hrest with hsep | ⟨u, hu, hc⟩
              · exact .inl hsep
              · exact .inr ⟨u, List.mem_cons_of_mem w hu, hc⟩
          · exact List.cons_ne_nil v vs

theorem mem_lowerWord {w : List Char} {c : Char} (h : c ∈ lowerWord w) :
    c = 'ς' ∨ ∃ d ∈ w, c ∈ lowerChar d := by
  induction w with
  | nil => cases h
  | cons d ds ih =>
      cases ds with
      | nil =>
          rw [lowerWord] at h
          split at h
          · exact .inl (List.mem_singleton.mp h)
          · exact .inr ⟨d, List.mem_cons_self, h⟩
      | cons e es =>
          rw [lowerWord, List.mem_append] at h
          · rcases h with hd | hrest
            · exact .inr ⟨d, List.mem_cons_self, hd⟩
            · rcases ih hrest with hsigma | ⟨f, hf, hc⟩
              · exact .inl hsigma
              · exact .inr ⟨f, List.mem_cons_of_mem d hf, hc⟩
          · exact List.cons_ne_nil e es

/-- The words cut out of a text hold its characters only. -/
theorem mem_cutHumps {h : Hump} {word cs w : List Char} {c : Char}
    (hw : w ∈ cutHumps h word cs) (hc : c ∈ w) : c ∈ word ∨ c ∈ cs := by
  induction h, word, cs using cutHumps.induct with
  | case1 h word hempty =>
      rw [cutHumps, if_pos hempty] at hw
      cases hw
  | case2 h word hempty =>
      rw [cutHumps, if_neg hempty] at hw
      exact .inl (List.mem_singleton.mp hw ▸ hc)
  | case3 h word d =>
      rw [cutHumps, List.mem_singleton] at hw
      exact List.mem_append.mp (hw ▸ hc)
  | case4 h word d next rest hcut ih =>
      rw [cutHumps, if_pos hcut] at hw
      rcases List.mem_cons.mp hw with rfl | hw
      · exact (List.mem_append.mp hc).imp_right (List.mem_append_left _)
      · rcases ih hw with hnil | hrest
        · cases hnil
        · exact .inr (List.mem_cons_of_mem d hrest)
  | case5 h word d next rest hstay hcut ih =>
      rw [cutHumps, if_neg hstay, if_pos hcut] at hw
      rcases List.mem_cons.mp hw with rfl | hw
      · exact .inl hc
      · rcases ih hw with hword | hrest
        · exact .inr (List.mem_singleton.mp hword ▸ List.mem_cons_self)
        · exact .inr (List.mem_cons_of_mem d hrest)
  | case6 h word d next rest hstay hcut ih =>
      rw [cutHumps, if_neg hstay, if_neg hcut] at hw
      rcases ih hw with hword | hrest
      · exact (List.mem_append.mp hword).imp_right (List.mem_append_left _)
      · exact .inr (List.mem_cons_of_mem d hrest)

theorem isAlphanumeric_of_mem_words {s : String} {w : List Char} {c : Char}
    (hw : w ∈ words s) (hc : c ∈ w) : isAlphanumeric c = true := by
  obtain ⟨piece, hpiece, hcut⟩ := List.mem_flatMap.mp hw
  rcases mem_cutHumps hcut hc with hnil | hmem
  · cases hnil
  · simpa using not_mem_splitWhen _ _ piece hpiece c hmem

/-- Recased characters stay above a bound that the tables stay above. -/
theorem lt_of_mem_recase {bound : Nat} {shifts : List Letter.Shift}
    {expansions : List (Nat × List Nat)} {c d : Char}
    (hshifts : ∀ s ∈ shifts, bound < s.first + s.offset ∧
      (s.last + s.offset < 0xD800 ∨
        0xDFFF < s.first + s.offset ∧ s.last + s.offset < 0x110000))
    (hexpansions : ∀ row ∈ expansions, ∀ point ∈ row.2,
      bound < (Char.ofNat point).toNat)
    (hc : bound < c.toNat) (hd : d ∈ recase shifts expansions c) :
    bound < d.toNat := by
  unfold recase at hd
  split at hd
  · rename_i points hrow
    obtain ⟨point, hpoint, rfl⟩ := List.mem_map.mp hd
    obtain ⟨before, after, htable, _⟩ := List.lookup_eq_some_iff.mp hrow
    have hmem : (c.toNat, points) ∈ expansions := by
      rw [htable]
      exact List.mem_append_right _ List.mem_cons_self
    exact hexpansions _ hmem point hpoint
  · split at hd
    · rename_i s hshift
      have hcovers := List.find?_some hshift
      have hrow := hshifts s (List.mem_of_find?_eq_some hshift)
      simp only [Letter.Span.covers, Bool.and_eq_true, decide_eq_true_eq]
        at hcovers
      rw [List.mem_singleton.mp hd]
      have hvalid : (c.toNat + s.offset).toNat.isValidChar := by
        unfold Nat.isValidChar
        omega
      rw [Char.ofNat, dif_pos hvalid]
      change bound < (c.toNat + s.offset).toNat
      omega
    · exact List.mem_singleton.mp hd ▸ hc

/-- Beyond ASCII no lower-case form falls back below its letters. -/
theorem lt_of_mem_recase_lower {c d : Char} (hc : ¬c.toNat < 0x80)
    (hd : d ∈ recase Letter.lowerShifts Letter.lowerExpansions c) :
    0x5C < d.toNat := by
  refine lt_of_mem_recase ?_ ?_ (by omega) hd
  · decide +kernel
  · decide +kernel

/-- No upper-case form does so either. -/
theorem lt_of_mem_recase_upper {c d : Char} (hc : ¬c.toNat < 0x80)
    (hd : d ∈ recase Letter.upperShifts Letter.upperExpansions c) :
    0x40 < d.toNat := by
  refine lt_of_mem_recase ?_ ?_ (by omega) hd
  · decide +kernel
  · decide +kernel

theorem isPathSafe_toLower : ∀ n < 0x80,
    (Char.ofNat n).isAlphanum = true → IsPathSafe (Char.ofNat n).toLower := by
  decide +kernel

theorem isPathSafe_of_lt {c : Char} (h : 0x5C < c.toNat) : IsPathSafe c := by
  refine ⟨?_, ?_, ?_, ?_⟩ <;>
    · rintro rfl
      revert h
      decide

theorem isPathSafe_lowerChar {c d : Char} (hc : isAlphanumeric c = true)
    (hd : d ∈ lowerChar c) : IsPathSafe d := by
  unfold lowerChar at hd
  split at hd
  case isTrue hascii =>
    unfold isAlphanumeric at hc
    rw [if_pos hascii] at hc
    have hsafe := isPathSafe_toLower c.toNat hascii
    rw [Char.ofNat_toNat] at hsafe
    exact List.mem_singleton.mp hd ▸ hsafe hc
  case isFalse hbeyond =>
    exact isPathSafe_of_lt (lt_of_mem_recase_lower hbeyond hd)

/-- Kebab case holds nothing that means something in a path. -/
theorem pathSafe_kebabCase (s : String) : PathSafe (kebabCase s) := by
  intro c hc
  rw [kebabCase, String.toList_ofList] at hc
  rcases mem_joinWith hc with rfl | ⟨lowered, hlowered, hc⟩
  · decide
  · obtain ⟨w, hw, rfl⟩ := List.mem_map.mp hlowered
    rcases mem_lowerWord hc with rfl | ⟨d, hd, hc⟩
    · decide
    · exact isPathSafe_lowerChar (isAlphanumeric_of_mem_words hw hd) hc

theorem lt_toUpper : ∀ n < 0x80, (Char.ofNat n).isAlphanum = true →
    0x2F < (Char.ofNat n).toUpper.toNat ∧ 0x2F < (Char.ofNat n).toLower.toNat := by
  decide +kernel

/-- Both cases of a letter or number are above the slash. -/
theorem lt_of_mem_case {c d : Char} (hc : isAlphanumeric c = true)
    (hd : d ∈ upperChar c ∨ d ∈ lowerChar c) : 0x2F < d.toNat := by
  by_cases hascii : c.toNat < 0x80
  · unfold isAlphanumeric at hc
    rw [if_pos hascii] at hc
    have hcases := lt_toUpper c.toNat hascii
    rw [Char.ofNat_toNat] at hcases
    unfold upperChar lowerChar at hd
    rw [if_pos hascii, if_pos hascii, List.mem_singleton, List.mem_singleton] at hd
    rcases hd with rfl | rfl
    · exact (hcases hc).1
    · exact (hcases hc).2
  · unfold upperChar lowerChar at hd
    rw [if_neg hascii, if_neg hascii] at hd
    rcases hd with hd | hd
    · have hlt := lt_of_mem_recase_upper hascii hd
      omega
    · have hlt := lt_of_mem_recase_lower hascii hd
      omega

theorem mem_capitalWord {w : List Char} {c : Char} (h : c ∈ capitalWord w) :
    c = 'ς' ∨ ∃ d ∈ w, c ∈ upperChar d ∨ c ∈ lowerChar d := by
  cases w with
  | nil => cases h
  | cons d ds =>
      rcases List.mem_append.mp h with hd | hrest
      · exact .inr ⟨d, List.mem_cons_self, .inl hd⟩
      · rcases mem_lowerWord hrest with hsigma | ⟨e, he, hc⟩
        · exact .inl hsigma
        · exact .inr ⟨e, List.mem_cons_of_mem d he, .inr hc⟩

/-- Camel case holds no sign that comes before the digits. -/
theorem not_mem_upperCamelCase {c : Char} (h : c.toNat ≤ 0x2F) (s : String) :
    c ∉ (upperCamelCase s).toList := by
  intro hmem
  rw [upperCamelCase, String.toList_ofList] at hmem
  obtain ⟨w, hw, hc⟩ := List.mem_flatMap.mp hmem
  rcases mem_capitalWord hc with rfl | ⟨d, hd, hcase⟩
  · exact absurd h (by decide)
  · have hlt := lt_of_mem_case (isAlphanumeric_of_mem_words hw hd) hcase
    exact Nat.not_le_of_lt hlt h

end AspectForms.Text
