import AspectForms.Proofs.Spelling

/-!
What becomes of the characters of a name.  Main statements: cutting a name into words loses what
is neither letter nor number and nothing else, so the spellings made from its words are empty
exactly for a name without letters and numbers.  The camel case of plain names, of which each word
starts with a letter, tells their kebab case.
-/

namespace AspectForms.Text

/-- Cutting loses the separators and nothing else. -/
theorem flatten_splitWhen (p : Char → Bool) (cs : List Char) :
    (splitWhen p cs).flatten = cs.filter (!p ·) := by
  induction cs with
  | nil => rfl
  | cons c cs ih =>
      by_cases hc : p c = true
      · simp [splitWhen, hc, ih]
      · cases hs : splitWhen p cs with
        | nil => exact absurd hs (splitWhen_ne_nil p cs)
        | cons w ws =>
            rw [hs, List.flatten_cons] at ih
            simp [splitWhen, hc, hs, ih]

theorem flatten_cutHumps (h : Hump) (word cs : List Char) :
    (cutHumps h word cs).flatten = word ++ cs := by
  induction h, word, cs using cutHumps.induct with
  | case1 h word hempty => simp_all [cutHumps]
  | case2 h word hempty => simp [cutHumps, hempty]
  | case3 h word c => simp [cutHumps]
  | case4 h word c next rest hcut ih =>
      rw [cutHumps, if_pos hcut, List.flatten_cons, ih]
      simp
  | case5 h word c next rest hstay hcut ih =>
      rw [cutHumps, if_neg hstay, if_pos hcut, List.flatten_cons, ih]
      simp
  | case6 h word c next rest hstay hcut ih =>
      rw [cutHumps, if_neg hstay, if_neg hcut, ih]
      simp

/-- The words of a name hold its letters and numbers, in order. -/
theorem flatten_words (s : String) : (words s).flatten = s.toList.filter isAlphanumeric := by
  have hpieces (pieces : List (List Char)) :
      (pieces.flatMap (cutHumps .none [])).flatten = pieces.flatten := by
    induction pieces with
    | nil => rfl
    | cons piece pieces ih =>
        rw [List.flatMap_cons, List.flatten_append, flatten_cutHumps, ih]
        rfl
  rw [words, hpieces, flatten_splitWhen]
  simp

/-- A word that is cut off before its last letter has a letter before that. -/
theorem ne_nil_of_mem_cutHumps {h : Hump} {word cs w : List Char}
    (hword : h = .upper → word ≠ []) (hw : w ∈ cutHumps h word cs) : w ≠ [] := by
  induction h, word, cs using cutHumps.induct with
  | case1 h word hempty =>
      rw [cutHumps, if_pos hempty] at hw
      cases hw
  | case2 h word hempty =>
      rw [cutHumps, if_neg hempty, List.mem_singleton] at hw
      subst hw
      simpa using hempty
  | case3 h word c =>
      rw [cutHumps, List.mem_singleton] at hw
      simp [hw]
  | case4 h word c next rest hcut ih =>
      rw [cutHumps, if_pos hcut] at hw
      rcases List.mem_cons.mp hw with rfl | hw
      · simp
      · exact ih (by simp) hw
  | case5 h word c next rest hstay hcut ih =>
      rw [cutHumps, if_neg hstay, if_pos hcut] at hw
      rcases List.mem_cons.mp hw with rfl | hw
      · exact hword hcut.1
      · exact ih (by simp) hw
  | case6 h word c next rest hstay hcut ih =>
      rw [cutHumps, if_neg hstay, if_neg hcut] at hw
      exact ih (by simp) hw

theorem ne_nil_of_mem_words {s : String} {w : List Char} (hw : w ∈ words s) : w ≠ [] := by
  obtain ⟨piece, _, hcut⟩ := List.mem_flatMap.mp hw
  exact ne_nil_of_mem_cutHumps (by simp) hcut

/-- The text has a letter or number. -/
def HasLetter (s : String) : Prop := ∃ c ∈ s.toList, isAlphanumeric c = true

instance (s : String) : Decidable (HasLetter s) :=
  List.decidableBEx _ s.toList

/-- A name has words if it has a letter or number. -/
theorem words_ne_nil_iff {s : String} : words s ≠ [] ↔ HasLetter s := by
  have hflatten := flatten_words s
  constructor
  · intro hne
    obtain ⟨w, ws, hwords⟩ := List.exists_cons_of_ne_nil hne
    have hw : w ∈ words s := hwords ▸ List.mem_cons_self
    obtain ⟨c, hc⟩ := List.exists_mem_of_ne_nil w (ne_nil_of_mem_words hw)
    have hmem : c ∈ s.toList.filter isAlphanumeric := by
      rw [← hflatten]
      exact List.mem_flatten_of_mem hw hc
    exact ⟨c, List.mem_filter.mp hmem⟩
  · rintro ⟨c, hc, hletter⟩ hnil
    have hmem : c ∈ s.toList.filter isAlphanumeric := List.mem_filter.mpr ⟨hc, hletter⟩
    rw [← hflatten, hnil] at hmem
    cases hmem

theorem recase_ne_nil {shifts : List Letter.Shift} {expansions : List (Nat × List Nat)}
    (hexpansions : ∀ row ∈ expansions, row.2 ≠ []) (c : Char) :
    recase shifts expansions c ≠ [] := by
  unfold recase
  split
  · rename_i points hrow
    obtain ⟨before, after, htable, _⟩ := List.lookup_eq_some_iff.mp hrow
    have hmem : (c.toNat, points) ∈ expansions := by
      rw [htable]
      exact List.mem_append_right _ List.mem_cons_self
    simpa using hexpansions _ hmem
  · split <;> simp

theorem lowerChar_ne_nil (c : Char) : lowerChar c ≠ [] := by
  unfold lowerChar
  split
  · simp
  · exact recase_ne_nil (by decide) c

theorem upperChar_ne_nil (c : Char) : upperChar c ≠ [] := by
  unfold upperChar
  split
  · simp
  · exact recase_ne_nil (by decide +kernel) c

theorem lowerWord_ne_nil {w : List Char} (h : w ≠ []) : lowerWord w ≠ [] := by
  cases w with
  | nil => exact absurd rfl h
  | cons c cs =>
      cases cs with
      | nil =>
          rw [lowerWord]
          split
          · simp
          · exact lowerChar_ne_nil c
      | cons d ds => simp [lowerWord, lowerChar_ne_nil]

theorem capitalWord_ne_nil {w : List Char} (h : w ≠ []) : capitalWord w ≠ [] := by
  cases w with
  | nil => exact absurd rfl h
  | cons c cs => simp [capitalWord, upperChar_ne_nil]

theorem joinWith_ne_nil {sep : Char} {ws : List (List Char)} (hne : ws ≠ [])
    (h : ∀ w ∈ ws, w ≠ []) : joinWith sep ws ≠ [] := by
  cases ws with
  | nil => exact absurd rfl hne
  | cons w ws =>
      have hw := h w List.mem_cons_self
      cases ws with
      | nil => exact hw
      | cons v vs => simp [joinWith, hw]

/-- The spelling in kebab case is not empty for a name with a letter or number only. -/
theorem kebabCase_ne_empty_iff {s : String} : kebabCase s ≠ "" ↔ HasLetter s := by
  have hlist : kebabCase s ≠ "" ↔ joinWith '-' ((words s).map lowerWord) ≠ [] := by
    rw [Ne, ← String.toList_inj, kebabCase, String.toList_ofList, String.toList_empty]
  rw [hlist, ← words_ne_nil_iff]
  constructor
  · intro hjoin hnil
    exact hjoin (hnil ▸ rfl)
  · intro hne
    apply joinWith_ne_nil (by simpa using hne)
    intro lowered hlowered
    obtain ⟨w, hw, rfl⟩ := List.mem_map.mp hlowered
    exact lowerWord_ne_nil (ne_nil_of_mem_words hw)

/-- Nor is that in camel case. -/
theorem upperCamelCase_ne_empty_iff {s : String} : upperCamelCase s ≠ "" ↔ HasLetter s := by
  have hlist : upperCamelCase s ≠ "" ↔ (words s).flatMap capitalWord ≠ [] := by
    rw [Ne, ← String.toList_inj, upperCamelCase, String.toList_ofList, String.toList_empty]
  rw [hlist, ← words_ne_nil_iff]
  constructor
  · intro hflat hnil
    exact hflat (hnil ▸ rfl)
  · intro hne hflat
    obtain ⟨w, ws, hwords⟩ := List.exists_cons_of_ne_nil hne
    have hw : w ∈ words s := hwords ▸ List.mem_cons_self
    exact capitalWord_ne_nil (ne_nil_of_mem_words hw) (List.flatMap_eq_nil_iff.mp hflat w hw)

/-- Kebab case holds no sign that comes before the hyphen. -/
theorem not_mem_kebabCase {c : Char} (h : c.toNat ≤ 0x2C) (s : String) :
    c ∉ (kebabCase s).toList := by
  intro hmem
  rw [kebabCase, String.toList_ofList] at hmem
  rcases mem_joinWith hmem with rfl | ⟨lowered, hlowered, hc⟩
  · exact absurd h (by decide)
  · obtain ⟨w, hw, rfl⟩ := List.mem_map.mp hlowered
    rcases mem_lowerWord hc with rfl | ⟨d, hd, hcase⟩
    · exact absurd h (by decide)
    · have hlt := lt_of_mem_case (isAlphanumeric_of_mem_words hw hd) (.inr hcase)
      omega

/-- Letters and numbers by rows, those of the small ASCII letters first. -/
def letterSpans : List (Nat × Nat) := (0x61, 0x7A) :: Letter.alphanumericSpans

theorem isAlphanumeric_of_letterSpans {n : Nat} {r : Nat × Nat} (hr : r ∈ letterSpans)
    (hfirst : r.1 ≤ n) (hlast : n ≤ r.2) (hvalid : n.isValidChar) :
    isAlphanumeric (Char.ofNat n) = true := by
  have hsmall : ∀ n < 0x80, 0x61 ≤ n → n ≤ 0x7A → isAlphanumeric (Char.ofNat n) = true := by
    decide +kernel
  have hbeyond : ∀ r ∈ Letter.alphanumericSpans, 0x80 ≤ r.1 := by decide +kernel
  rcases List.mem_cons.mp hr with rfl | hr
  · exact hsmall n (Nat.lt_of_le_of_lt hlast (by decide)) hfirst hlast
  · have hn : (Char.ofNat n).toNat = n := by
      rw [Char.ofNat, dif_pos hvalid]
      rfl
    have hlarge : ¬(Char.ofNat n).toNat < 0x80 := by
      have hbound := hbeyond r hr
      omega
    rw [isAlphanumeric, if_neg hlarge, List.any_eq_true]
    exact ⟨r, hr, by simpa [hn] using ⟨hfirst, hlast⟩⟩

theorem isAlphanumeric_toLower : ∀ n < 0x80,
    (Char.ofNat n).isAlphanum = true → isAlphanumeric (Char.ofNat n).toLower = true := by
  decide +kernel

/-- The lower-case form of a letter has a letter. -/
theorem exists_mem_lowerChar {c : Char} (hc : isAlphanumeric c = true) :
    ∃ d ∈ lowerChar c, isAlphanumeric d = true := by
  have hshifts : (Letter.lowerShifts.all fun s => letterSpans.any fun r =>
      Nat.ble r.1 (s.first + s.offset).toNat &&
        Nat.ble (s.last + s.offset).toNat r.2) = true := by
    decide +kernel
  have hvalid : ∀ r ∈ letterSpans, r.2 < 0xD800 ∨ 0xDFFF < r.1 ∧ r.2 < 0x110000 := by
    decide +kernel
  have hexpansions : ∀ row ∈ Letter.lowerExpansions,
      ∃ point ∈ row.2, isAlphanumeric (Char.ofNat point) = true := by
    decide +kernel
  unfold lowerChar
  split
  · rename_i hascii
    have hlower := isAlphanumeric_toLower c.toNat hascii
    rw [Char.ofNat_toNat] at hlower
    rw [isAlphanumeric, if_pos hascii] at hc
    exact ⟨c.toLower, List.mem_cons_self, hlower hc⟩
  · unfold recase
    split
    · rename_i points hrow
      obtain ⟨before, after, htable, _⟩ := List.lookup_eq_some_iff.mp hrow
      have hmem : (c.toNat, points) ∈ Letter.lowerExpansions := by
        rw [htable]
        exact List.mem_append_right _ List.mem_cons_self
      obtain ⟨point, hpoint, hletter⟩ := hexpansions _ hmem
      exact ⟨_, List.mem_map_of_mem hpoint, hletter⟩
    · split
      · rename_i s hshift
        have hcovers := List.find?_some hshift
        obtain ⟨r, hr, hspan⟩ :=
          List.any_eq_true.mp (List.all_eq_true.mp hshifts s (List.mem_of_find?_eq_some hshift))
        have hrow := hvalid r hr
        simp only [Bool.and_eq_true, Nat.ble_eq] at hspan
        simp only [Letter.Span.covers, Bool.and_eq_true, decide_eq_true_eq] at hcovers
        refine ⟨_, List.mem_cons_self, isAlphanumeric_of_letterSpans hr ?_ ?_ ?_⟩
        · omega
        · omega
        · unfold Nat.isValidChar
          omega
      · exact ⟨c, List.mem_cons_self, hc⟩

theorem exists_mem_lowerWord {w : List Char} (hne : w ≠ [])
    (hw : ∀ c ∈ w, isAlphanumeric c = true) :
    ∃ c ∈ lowerWord w, isAlphanumeric c = true := by
  cases w with
  | nil => exact absurd rfl hne
  | cons c cs =>
      obtain ⟨d, hd, hletter⟩ := exists_mem_lowerChar (hw c List.mem_cons_self)
      cases cs with
      | nil =>
          rw [lowerWord]
          split
          · exact ⟨'ς', List.mem_cons_self, by decide +kernel⟩
          · exact ⟨d, hd, hletter⟩
      | cons e es => exact ⟨d, List.mem_append_left _ hd, hletter⟩

theorem mem_joinWith_of_mem {sep c : Char} {w : List Char} {ws : List (List Char)}
    (hw : w ∈ ws) (hc : c ∈ w) : c ∈ joinWith sep ws := by
  induction ws with
  | nil => cases hw
  | cons v vs ih =>
      cases vs with
      | nil => exact List.mem_singleton.mp hw ▸ hc
      | cons u us =>
          rw [joinWith, List.mem_append, List.mem_cons]
          · rcases List.mem_cons.mp hw with rfl | hw
            · exact .inl hc
            · exact .inr (.inr (ih hw))
          · exact List.cons_ne_nil u us

/-- The spelling in kebab case has a letter if the name has one. -/
theorem hasLetter_kebabCase {s : String} (h : HasLetter s) : HasLetter (kebabCase s) := by
  obtain ⟨w, ws, hwords⟩ := List.exists_cons_of_ne_nil (words_ne_nil_iff.mpr h)
  have hw : w ∈ words s := hwords ▸ List.mem_cons_self
  obtain ⟨c, hc, hletter⟩ := exists_mem_lowerWord (ne_nil_of_mem_words hw)
    fun d hd => isAlphanumeric_of_mem_words hw hd
  refine ⟨c, ?_, hletter⟩
  rw [kebabCase, String.toList_ofList]
  exact mem_joinWith_of_mem (List.mem_map_of_mem hw) hc

/-- The name is made of ASCII characters, and each of its words starts with a letter. -/
structure LetterLed (s : String) : Prop where
  ascii : ∀ c ∈ s.toList, c.toNat < 0x80
  led : ∀ w ∈ words s, ∃ c ∈ w.head?, c.isAlpha = true

theorem letterLed_iff {s : String} :
    LetterLed s ↔ s.toList.all (fun c => c.toNat < 0x80) = true ∧
      (words s).all (fun w => w.head?.any Char.isAlpha) = true := by
  simp only [List.all_eq_true, decide_eq_true_eq, Option.any_eq_true]
  exact ⟨fun h => ⟨h.ascii, h.led⟩, fun h => ⟨h.1, h.2⟩⟩

instance (s : String) : Decidable (LetterLed s) :=
  decidable_of_iff _ letterLed_iff.symm

theorem toLower_toUpper : ∀ n < 0x80,
    (Char.ofNat n).toUpper.toLower = (Char.ofNat n).toLower ∧
      ((Char.ofNat n).isAlpha = true → (Char.ofNat n).toUpper.isUpper = true) := by
  decide +kernel

theorem toLower_toLower : ∀ n < 0x80,
    (Char.ofNat n).toLower.toLower = (Char.ofNat n).toLower := by
  decide +kernel

theorem isUpper_toLower : ∀ n < 0x80, (Char.ofNat n).toLower.isUpper = false := by
  decide +kernel

/-- A capital letter and no other one after it. -/
def IsHump (cs : List Char) : Prop :=
  ∃ c rest, cs = c :: rest ∧ c.isUpper = true ∧ ∀ d ∈ rest, d.isUpper = false

/-- Humps that are run together can be told apart. -/
theorem eq_of_flatten_humps {xs ys : List (List Char)} (hxs : ∀ x ∈ xs, IsHump x)
    (hys : ∀ y ∈ ys, IsHump y) (h : xs.flatten = ys.flatten) : xs = ys := by
  have hbreak {zs : List (List Char)} (hzs : ∀ z ∈ zs, IsHump z) :
      zs.flatten.takeWhile (!·.isUpper) = [] := by
    cases zs with
    | nil => rfl
    | cons z zs =>
        obtain ⟨c, rest, rfl, hc, _⟩ := hzs z List.mem_cons_self
        simp [hc]
  induction xs generalizing ys with
  | nil =>
      cases ys with
      | nil => rfl
      | cons y ys =>
          obtain ⟨c, rest, rfl, _⟩ := hys y List.mem_cons_self
          cases h
  | cons x xs ih =>
      obtain ⟨c, rest, rfl, hc, hrest⟩ := hxs x List.mem_cons_self
      cases ys with
      | nil => cases h
      | cons y ys =>
          obtain ⟨d, others, rfl, hd, hothers⟩ := hys y List.mem_cons_self
          obtain ⟨rfl, htail⟩ : c = d ∧ rest ++ xs.flatten = others ++ ys.flatten := by
            simpa using h
          have hxs' : ∀ z ∈ xs, IsHump z := fun z hz => hxs z (List.mem_cons_of_mem _ hz)
          have hys' : ∀ z ∈ ys, IsHump z := fun z hz => hys z (List.mem_cons_of_mem _ hz)
          have hcut {ds : List Char} (hds : ∀ d ∈ ds, d.isUpper = false) (es : List Char) :
              (ds ++ es).takeWhile (!·.isUpper) = ds ++ es.takeWhile (!·.isUpper) :=
            List.takeWhile_append_of_pos (by simpa using hds)
          have hsame : rest = others := by
            have htake := congrArg (List.takeWhile (!·.isUpper)) htail
            rw [hcut hrest, hcut hothers, hbreak hxs', hbreak hys'] at htake
            simpa using htake
          subst hsame
          rw [ih hxs' hys' (List.append_cancel_left htail)]

section Ascii

variable {w : List Char} (hw : ∀ c ∈ w, c.toNat < 0x80)
include hw

theorem lowerWord_of_ascii : lowerWord w = w.map Char.toLower := by
  induction w with
  | nil => rfl
  | cons c cs ih =>
      obtain ⟨hc, hcs⟩ := List.forall_mem_cons.mp hw
      have hchar : lowerChar c = [c.toLower] := by rw [lowerChar, if_pos hc]
      cases cs with
      | nil =>
          have hsigma : c ≠ 'Σ' := by
            rintro rfl
            exact absurd hc (by decide)
          rw [lowerWord, if_neg hsigma, hchar]
          rfl
      | cons d ds =>
          rw [lowerWord, hchar, ih hcs]
          · rfl
          · exact List.cons_ne_nil d ds

/-- A capitalised word tells the word in lower case. -/
theorem map_toLower_capitalWord : (capitalWord w).map Char.toLower = lowerWord w := by
  rw [lowerWord_of_ascii hw]
  cases w with
  | nil => rfl
  | cons c cs =>
      obtain ⟨hc, hcs⟩ := List.forall_mem_cons.mp hw
      have hupper := (toLower_toUpper c.toNat hc).1
      rw [Char.ofNat_toNat] at hupper
      rw [capitalWord, lowerWord_of_ascii hcs, upperChar, if_pos hc, List.map_append,
        List.map_singleton, hupper, List.map_map, List.map_cons]
      refine congrArg (c.toLower :: ·) (List.map_congr_left fun d hd => ?_)
      have hlower := toLower_toLower d.toNat (hcs d hd)
      rwa [Char.ofNat_toNat] at hlower

/-- The first letter of a capitalised word is the only capital one. -/
theorem isHump_capitalWord (hled : ∃ c ∈ w.head?, c.isAlpha = true) :
    IsHump (capitalWord w) := by
  obtain ⟨c, hhead, hletter⟩ := hled
  obtain ⟨cs, rfl⟩ := List.head?_eq_some_iff.mp hhead
  obtain ⟨hc, hcs⟩ := List.forall_mem_cons.mp hw
  have hupper := (toLower_toUpper c.toNat hc).2
  rw [Char.ofNat_toNat] at hupper
  refine ⟨c.toUpper, lowerWord cs, ?_, hupper hletter, ?_⟩
  · rw [capitalWord, upperChar, if_pos hc]
    rfl
  · intro l hl
    rw [lowerWord_of_ascii hcs] at hl
    obtain ⟨d, hd, rfl⟩ := List.mem_map.mp hl
    have hlower := isUpper_toLower d.toNat (hcs d hd)
    rwa [Char.ofNat_toNat] at hlower

end Ascii

theorem LetterLed.of_mem_words {s : String} (h : LetterLed s) {w : List Char} (hw : w ∈ words s) :
    ∀ c ∈ w, c.toNat < 0x80 := by
  intro c hc
  apply h.ascii c
  have hmem := List.mem_flatten_of_mem hw hc
  rw [flatten_words] at hmem
  exact (List.mem_filter.mp hmem).1

/-- The camel case of plain names tells their kebab case. -/
theorem LetterLed.kebabCase_eq {s t : String} (hs : LetterLed s) (ht : LetterLed t)
    (h : upperCamelCase s = upperCamelCase t) : kebabCase s = kebabCase t := by
  have hhumps {s : String} (hs : LetterLed s) :
      ∀ x ∈ (words s).map capitalWord, IsHump x := by
    intro x hx
    obtain ⟨w, hw, rfl⟩ := List.mem_map.mp hx
    exact isHump_capitalWord (hs.of_mem_words hw) (hs.led w hw)
  have hlower {s : String} (hs : LetterLed s) :
      ((words s).map capitalWord).map (List.map Char.toLower) = (words s).map lowerWord := by
    rw [List.map_map]
    exact List.map_congr_left fun w hw => map_toLower_capitalWord (hs.of_mem_words hw)
  have hlist := String.ofList_injective h
  rw [List.flatMap_def, List.flatMap_def] at hlist
  have hwords := eq_of_flatten_humps (hhumps hs) (hhumps ht) hlist
  rw [kebabCase, kebabCase, ← hlower hs, ← hlower ht, hwords]

end AspectForms.Text
