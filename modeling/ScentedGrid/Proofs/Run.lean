/-! Longest runs. Readers of text and of bytes take as many items of one kind as there are; such
a run is found again wherever something of another kind, or nothing, comes after it. -/

namespace ScentedGrid

variable {α β : Type} {inside : α → Bool} {read? : α → Option β} {write : β → α}

/-- No run goes on into `rest`. -/
def Stops (inside : α → Bool) (rest : List α) : Prop := ∀ c ∈ rest.head?, inside c = false

theorem stops_nil : Stops inside ([] : List α) := by
  intro c member
  cases member

theorem stops_cons {c : α} {rest : List α} (outside : inside c = false) :
    Stops inside (c :: rest) := by
  intro d member
  cases member
  exact outside

theorem stops_append {run : List α} (filled : run ≠ []) (outside : ∀ c ∈ run, inside c = false)
    (rest : List α) : Stops inside (run ++ rest) := by
  cases run with
  | nil => exact absurd rfl filled
  | cons c more => exact stops_cons (outside c List.mem_cons_self)

theorem Stops.of_append {run rest : List α} (stops : Stops inside (run ++ rest)) :
    Stops inside run := by
  cases run with
  | nil => exact stops_nil
  | cons c more => exact stops

theorem Stops.takeWhile_eq_nil {rest : List α} (stops : Stops inside rest) :
    rest.takeWhile inside = [] := by
  cases rest with
  | nil => rfl
  | cons c rest => rw [List.takeWhile_cons, stops c rfl, if_neg Bool.false_ne_true]

theorem Stops.dropWhile_eq_self {rest : List α} (stops : Stops inside rest) :
    rest.dropWhile inside = rest := by
  cases rest with
  | nil => rfl
  | cons c rest => rw [List.dropWhile_cons, stops c rfl, if_neg Bool.false_ne_true]

theorem takeWhile_run {run rest : List α} (all : ∀ c ∈ run, inside c = true)
    (stops : Stops inside rest) : (run ++ rest).takeWhile inside = run := by
  rw [List.takeWhile_append_of_pos all, stops.takeWhile_eq_nil, List.append_nil]

theorem dropWhile_run {run rest : List α} (all : ∀ c ∈ run, inside c = true)
    (stops : Stops inside rest) : (run ++ rest).dropWhile inside = rest := by
  rw [List.dropWhile_append_of_pos all, stops.dropWhile_eq_self]

theorem stops_dropWhile (text : List α) : Stops inside (text.dropWhile inside) := by
  intro c member
  have outside := List.head?_dropWhile_not inside text
  rw [Option.mem_def.1 member] at outside
  exact outside

/-! A run of written items is read item by item, and what is read is written the same way. -/

theorem filterMap_written (back : ∀ item, read? (write item) = some item) (items : List β) :
    (items.map write).filterMap read? = items := by
  have same : read? ∘ write = some := funext back
  rw [List.filterMap_map, same, List.filterMap_some]

theorem mapM_written (back : ∀ item, read? (write item) = some item) (items : List β) :
    (items.map write).mapM read? = some items := by
  have same : read? ∘ write = some := funext back
  rw [List.mapM_map, same]
  exact (List.mapM_pure (f := id)).trans (congrArg some (List.map_id items))

theorem written_filterMap (back : ∀ c item, read? c = some item → write item = c) {run : List α}
    (all : ∀ c ∈ run, (read? c).isSome = true) : (run.filterMap read?).map write = run := by
  induction run with
  | nil => rfl
  | cons c rest ih =>
    obtain ⟨item, read⟩ := Option.isSome_iff_exists.1 (all c List.mem_cons_self)
    have others := ih fun other member => all other (List.mem_cons_of_mem c member)
    rw [List.filterMap_cons_some read, List.map_cons, others, back c item read]

end ScentedGrid
