import AspectForms.Model.Basic

/-!
The entities of a document in ascending order of their names, each name once.  Main statement: adding
an element keeps that order.
-/

namespace AspectForms

variable {τ : Type}

/-- Add an element in its place; one of the same name gives way. -/
def insertElement (e : Element τ) : List (Element τ) → List (Element τ)
  | [] => [e]
  | x :: xs =>
    if e.name = x.name then e :: xs
    else if e.name < x.name then e :: x :: xs
    else x :: insertElement e xs

theorem mem_insertElement {e y : Element τ} {xs : List (Element τ)}
    (h : y ∈ insertElement e xs) : y = e ∨ y ∈ xs := by
  induction xs with
  | nil => simpa [insertElement] using h
  | cons x xs ih =>
    simp only [insertElement] at h
    split at h
    · rcases List.mem_cons.1 h with h | h
      · exact .inl h
      · exact .inr (List.mem_cons_of_mem _ h)
    · split at h
      · simpa using h
      · rcases List.mem_cons.1 h with h | h
        · exact .inr (h ▸ List.mem_cons_self)
        · exact (ih h).imp id (List.mem_cons_of_mem _)

theorem insertElement_ascending (e : Element τ) {xs : List (Element τ)}
    (h : (xs.map Element.name).Pairwise (· < ·)) :
    ((insertElement e xs).map Element.name).Pairwise (· < ·) := by
  induction xs with
  | nil => simp [insertElement]
  | cons x xs ih =>
    rw [List.map_cons, List.pairwise_cons] at h
    obtain ⟨head, tail⟩ := h
    simp only [insertElement]
    split
    · rename_i same
      rw [List.map_cons, List.pairwise_cons]
      exact ⟨by rw [same]; exact head, tail⟩
    · split
      · rename_i less
        rw [List.map_cons, List.map_cons, List.pairwise_cons, List.pairwise_cons]
        refine ⟨fun n hn => ?_, head, tail⟩
        rcases List.mem_cons.1 hn with rfl | hn
        · exact less
        · exact String.lt_trans less (head n hn)
      · rename_i different notLess
        rw [List.map_cons, List.pairwise_cons]
        refine ⟨fun n hn => ?_, ih tail⟩
        obtain ⟨y, hy, rfl⟩ := List.mem_map.1 hn
        rcases mem_insertElement hy with rfl | hy
        · refine Decidable.byContradiction fun h => different ?_
          exact String.le_antisymm (String.not_lt.1 h) (String.not_lt.1 notLess)
        · exact head _ (List.mem_map_of_mem hy)

/-- Elements in ascending order of their names; of a repeated name the last one counts. -/
def collectElements : List (Element τ) → List (Element τ) :=
  List.foldl (fun xs e => insertElement e xs) []

theorem collectElements_ascending (es : List (Element τ)) :
    ((collectElements es).map Element.name).Pairwise (· < ·) := by
  suffices ∀ (es xs : List (Element τ)), (xs.map Element.name).Pairwise (· < ·) →
      ((es.foldl (fun xs e => insertElement e xs) xs).map Element.name).Pairwise (· < ·) from
    this es [] (by simp)
  intro es
  induction es with
  | nil => exact fun _ h => h
  | cons e es ih => exact fun xs h => ih _ (insertElement_ascending e h)

/-- A document from its aspect and its entities in reading order. -/
def Document.ofElements (aspect : Element TypeRef) (entities : List (Element TypeRef)) : Document :=
  ⟨aspect, collectElements entities, collectElements_ascending entities⟩

end AspectForms
