import EntityStore.Proofs.Scouts.Rewriting

/-! Deletes on databases where every element has its parent. At no moment of a delete does an element lack it, so
nothing stops a delete, and afterwards the id is gone from all tables. -/

namespace EntityStore
open Engine ScoutWrite

/-- Every row of a collection has the id of a boy scout who is stored. -/
def Parented (rows : Rows) : Prop :=
  ∀ t ∈ ScoutTable.collections, ∀ row ∈ rows t, ∃ parent ∈ rows .boyScout, (cell parent 0).same (cell row 0) = true

/-- How a delete goes on a database with these rows. -/
structure Placement.Deletes {E : Type} {mapping : Mapping E} (placement : Placement mapping) (connection : Connection)
    (rows : Rows) (id : String) : Prop where
  done : (mapping.performAll connection [.delete id]).1 = [.ok .done]
  accepted : ∀ exchange ∈ mapping.exchanges Attached.store (.delete id) (.ofConnection connection .live),
    exchange.failure? = none
  parented : ∀ early, early <+: mapping.exchanges Attached.store (.delete id) (.ofConnection connection .live) →
    ∃ between, Holds (Attached.store.after early (.ofConnection connection .live)).connection between ∧ Parented between
  gone : ∃ left, Holds (mapping.performAll connection [.delete id]).2 left ∧
    (∀ t ∈ placement.tables, left t = (rows t).filter fun row => !hasId id row) ∧
      ∀ t ∉ placement.tables, left t = rows t
  unread : (mapping.performAll connection [.delete id, .read id]).1 = [.ok .done, .error (mapping.notFound id)]
  missing : (¬ ∃ row ∈ rows placement.parent, hasId id row = true) →
    connection.committed.SameRows (mapping.performAll connection [.delete id]).2.committed
  again : (mapping.performAll connection [.delete id, .delete id]).1 = [.ok .done, .ok .done] ∧
    (mapping.performAll connection [.delete id]).2.committed.SameRows
      (mapping.performAll connection [.delete id, .delete id]).2.committed

section Parented
variable {rows : Rows} {t : ScoutTable} {id : String}

theorem Parented.delete (parented : Parented rows) (allowed : (ScoutWrite.delete t id).Allowed rows) :
    Parented ((ScoutWrite.delete t id).apply rows) := by
  intro u child row member
  have inside : row ∈ rows u := by
    by_cases own : u = t
    · subst own
      rw [apply_delete] at member
      exact (List.mem_filter.mp member).1
    · rwa [apply_of_ne rows own] at member
  obtain ⟨parent, known, same⟩ := parented u child row inside
  refine ⟨parent, ?_, same⟩
  by_cases boy : t = .boyScout
  · subst boy
    rw [apply_delete]
    refine List.mem_filter.mpr ⟨known, ?_⟩
    rw [Bool.not_eq_true', Bool.eq_false_iff]
    intro has
    obtain ⟨present, named⟩ := hasId_iff.mp has
    rw [named, Value.same_comm, Value.same_text] at same
    have free := allowed rfl ⟨parent, known, has⟩ u child row inside
    rw [hasId_iff.mpr ⟨present, same⟩] at free
    cases free
  · have other : .boyScout ≠ (ScoutWrite.delete t id).table := Ne.symm boy
    rwa [apply_of_ne rows other]

end Parented

namespace Placement
variable {E : Type} {mapping : Mapping E} (placement : Placement mapping) {connection : Connection} {rows : Rows}
  {id : String}

theorem applyAll_delete (rows : Rows) (id : String) {t : ScoutTable} (inside : t ∈ placement.tables) :
    applyAll rows (placement.writes (.delete id)) t = (rows t).filter fun row => !hasId id row := by
  rcases List.mem_cons.mp inside with rfl | member
  · exact placement.applyAll_delete_parent rows id
  · obtain ⟨child, known, rfl⟩ := List.mem_map.mp member
    exact placement.applyAll_delete_child rows id known

theorem applyAll_undeleted (rows : Rows) (id : String) {t : ScoutTable} (outside : t ∉ placement.tables) :
    applyAll rows (placement.writes (.delete id)) t = rows t := by
  rw [tables, List.mem_cons, not_or] at outside
  exact placement.applyAll_elsewhere rows _ outside.1 outside.2

theorem applyAll_delete_absent (none : ∀ t ∈ placement.tables, (rows t).filter (hasId id) = []) :
    applyAll rows (placement.writes (.delete id)) = rows := by
  funext t
  by_cases inside : t ∈ placement.tables
  · rw [placement.applyAll_delete rows id inside, List.filter_eq_self]
    intro row member
    simpa using List.filter_eq_nil_iff.mp (none t inside) row member
  · exact placement.applyAll_undeleted rows id inside

theorem absent_everywhere (parented : Parented rows) (absent : ¬ ∃ row ∈ rows placement.parent, hasId id row = true) :
    ∀ t ∈ placement.tables, (rows t).filter (hasId id) = [] := by
  intro t inside
  refine List.filter_eq_nil_iff.mpr fun row member has => absent ?_
  rcases List.mem_cons.mp inside with rfl | inside
  · exact ⟨row, member, has⟩
  · obtain ⟨child, known, rfl⟩ := List.mem_map.mp inside
    obtain ⟨present, named⟩ := hasId_iff.mp has
    obtain ⟨parent, stored, same⟩ := parented child.2 (placement.inside child known) row member
    rw [named, Value.same_text] at same
    rw [placement.owner child known]
    exact ⟨parent, stored, hasId_iff.mpr ⟨present, same⟩⟩

include placement in
theorem parented_after (holds : Holds connection rows) (idle : connection.autocommit = true) (parented : Parented rows)
    {early : List Exchange}
    (start : early <+: mapping.exchanges Attached.store (.delete id) (.ofConnection connection .live)) :
    ∃ between, Holds (Attached.store.after early (.ofConnection connection .live)).connection between ∧
      Parented between := by
  have step : ∀ rows, ∀ write ∈ placement.writes (.delete id), Parented rows → write.Allowed rows →
      Parented (write.apply rows) := by
    intro rows write member parented allowed
    rcases List.mem_append.mp member with member | member
    · obtain ⟨child, -, rfl⟩ := List.mem_map.mp member
      exact parented.delete allowed
    · cases List.mem_singleton.mp member
      exact parented.delete allowed
  have planned := (mapping.keeps_operation (.delete id)).exchanges Attached.store (.ofConnection connection .live)
  have upholds : (Attached.ofConnection connection .live).connection.Upholds Parented := .of_idle idle holds parented
  exact (placement.upholds_after (.delete id) step Attached.wraps (fun exchange member =>
    planned exchange (start.subset member)) upholds).holds

theorem deleted_gone (rows : Rows) (id : String) :
    ∀ t ∈ placement.tables, (applyAll rows (placement.writes (.delete id)) t).filter (hasId id) = [] := by
  intro t inside
  rw [placement.applyAll_delete rows id inside]
  exact filter_deleted id (rows t)

variable {placement}

theorem Done.accepted {call : Call E} {reply : Reply E} (done : placement.Done connection rows call reply) :
    ∀ exchange ∈ mapping.exchanges Attached.store call (.ofConnection connection .live), exchange.failure? = none := by
  obtain ⟨after, last, ran, -, -⟩ := done
  have conducted := mapping.conducted Attached.store call (.live connection (.ofRows []))
  rw [ran] at conducted
  exact conducted.succeeds

variable (placement)

theorem deletes (idle : connection.autocommit = true) (holds : Holds connection rows) (parented : Parented rows)
    (id : String) : placement.Deletes connection rows id := by
  have done := placement.done_delete idle holds id
  have gone := placement.deleted_gone rows id
  obtain ⟨after, closed, held, performed⟩ := Mapping.performAll_cons done
  have first := performed []
  refine ⟨congrArg Prod.fst first, done.accepted, fun early start => placement.parented_after holds idle parented start,
    ?_, ?_, fun absent => ?_, ?_⟩
  · rw [first]
    exact ⟨_, held, fun t inside => placement.applyAll_delete rows id inside,
      fun t outside => placement.applyAll_undeleted rows id outside⟩
  · have unknown : (mapping.performAll after [.read id]).1 = [.error (mapping.notFound id)] := by
      have refused := placement.readEntity_none (gone _ List.mem_cons_self) held.opened (.ofRows [])
      exact Mapping.performAll_error .found closed held rfl refused (.refl _)
    rw [performed [.read id]]
    exact congrArg (List.cons _) unknown
  · have same := placement.applyAll_delete_absent (placement.absent_everywhere parented absent)
    rw [first]
    exact holds.sameRows idle held closed fun t => .of_eq (congrFun same t).symm
  · obtain ⟨last, shut, still, again⟩ := Mapping.performAll_cons (placement.done_delete closed held id)
    have same := placement.applyAll_delete_absent gone
    rw [performed [.delete id], again [], first]
    exact ⟨rfl, held.sameRows closed still shut fun t => .of_eq (congrFun same t).symm⟩

end Placement

/-- Whatever id is deleted, be it stored or not or empty, and whatever values are stored. -/
theorem delete_thorough {connection : Connection} {rows : Rows} (idle : connection.autocommit = true)
    (holds : Holds connection rows) (parented : Parented rows) (id : String) :
    BoyScout.placement.Deletes connection rows id ∧ GirlScout.placement.Deletes connection rows id :=
  ⟨BoyScout.placement.deletes idle holds parented id, GirlScout.placement.deletes idle holds parented id⟩

/-- A scout with odd elements in every collection is deleted beside another one, who keeps his badge. The empty id is
deleted too. -/
theorem delete_thorough_odd :
    let contents : Contents := fun
      | .boyScout =>
        [⟨2, [.text "s-2", .null, .null, .null, .null, .null, .null, .null, .null, .null, .null, .null]⟩,
          ⟨1, [.text "s-1", .blob [1, 2], .null, .text "soon", .text "now", .null, .null, .integer (-4), .integer 99,
            .null, .null, .text "many"]⟩]
      | .badges =>
        [⟨3, [.text "s-2", .integer 0, .integer 4]⟩, ⟨2, [.text "s-1", .text "last", .blob []]⟩,
          ⟨1, [.text "s-1", .integer 7, .integer 41]⟩]
      | .favoriteSongs => [⟨1, [.text "s-1", .integer 0, .null]⟩]
      | .campingTrips => [⟨1, [.text "s-1", .integer (-1), .text "never"]⟩]
      | .mask => [⟨1, [.text "s-1", .integer 3, .text "id"]⟩]
      | .girlScout => []
    let start := { Connection.ofDatabase contents.database with knowsTables := true }
    let ran := BoyScout.mapping.performAll start [.delete "s-1"]
    ran.1 = [.ok .done] ∧
      (∃ left, Holds ran.2 left ∧ left .mask = [] ∧ left .badges = [[.text "s-2", .integer 0, .integer 4]]) ∧
      start.committed.SameRows (BoyScout.mapping.performAll start [.delete ""]).2.committed := by
  intro contents start
  have holds : Holds start fun t => (contents t).map (·.values) := by
    refine Contents.holds (fun t => ?_) (fun t => ?_) fun t => ?_ <;> cases t <;> decide +kernel
  have parented : Parented fun t => (contents t).map (·.values) := by
    unfold Parented
    decide +kernel
  have deleted := (delete_thorough rfl holds parented "s-1").1
  have none := (delete_thorough rfl holds parented "").1
  refine ⟨deleted.done, ?_, none.missing (by decide +kernel)⟩
  obtain ⟨left, held, own, -⟩ := deleted.gone
  refine ⟨left, held, (own .mask (by decide)).trans ?_, (own .badges (by decide)).trans ?_⟩
  · decide +kernel
  · decide +kernel

end EntityStore
