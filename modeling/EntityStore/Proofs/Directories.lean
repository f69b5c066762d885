import Mathlib.Logic.Basic
import EntityStore.FileTree

/-! Making directories. Whether all of them can be made or not, what is in the tree stays as it is, and nothing but
directories is added to it. A path whose directories were made leads to a directory. Directories that others have made
never stand in the way. -/

namespace EntityStore.FileTree

/-- A tree with all nodes of another, and with nothing but directories beside them, whose names are not too long. -/
structure Extends (tree made : FileTree) : Prop where
  kept {place : List String} {node : FileNode} (known : tree.node? place = some node) : made.node? place = some node
  gained {place : List String} {node : FileNode} (found : made.node? place = some node) :
    tree.node? place = some node ∨ node = .directory ∧ ∀ name ∈ place.getLast?, name.utf8ByteSize ≤ 255

namespace Extends

theorem refl (tree : FileTree) : tree.Extends tree := ⟨id, .inl⟩

theorem trans {tree made last : FileTree} (first : tree.Extends made) (second : made.Extends last) :
    tree.Extends last where
  kept known := second.kept (first.kept known)
  gained found := (second.gained found).elim first.gained .inr

theorem file {tree made : FileTree} (more : tree.Extends made) {place : List String} {content : String}
    (found : made.node? place = some (.file content)) : tree.node? place = some (.file content) := by
  rcases more.gained found with known | ⟨impossible, -⟩
  · exact known
  · cases impossible

end Extends

theorem node?_put (tree : FileTree) {place : List String} (inside : place ≠ []) (node : FileNode) (other : List String) :
    (tree.put place node).node? other = if other = place then some node else tree.node? other := by
  have others (apart : other ≠ place) (nodes : List (List String × FileNode)) :
      (nodes.filter (·.1 != place)).lookup other = nodes.lookup other := by
    induction nodes with
    | nil => rfl
    | cons entry rest ih =>
      rcases eq_or_ne entry.1 place with here | there
      · rw [List.filter_cons_of_neg (by simp [here]), ih, List.lookup_cons, beq_false_of_ne (here ▸ apart)]
      · rw [List.filter_cons_of_pos (by simp [there]), List.lookup_cons, List.lookup_cons, ih]
  unfold node? put
  rcases eq_or_ne other place with rfl | apart
  · rw [if_neg (by simpa using inside), if_pos rfl, List.lookup_cons_self]
  · rw [if_neg apart, List.lookup_cons, beq_false_of_ne apart]
    dsimp only
    rw [others apart]

theorem ne_root {tree : FileTree} {place : List String} (free : tree.node? place = none) : place ≠ [] := by
  rintro rfl
  cases free

theorem walkStep_long {step : String} (long : 255 < step.utf8ByteSize) (place : List String) :
    walkStep place step = place ++ [step] := by
  rw [walkStep, if_neg, if_neg]
  · rintro rfl
    exact absurd long (by decide)
  · rintro rfl
    exact absurd long (by decide)

theorem Extends.long {tree made : FileTree} (more : tree.Extends made) {step : String}
    (long : 255 < step.utf8ByteSize) (place : List String) :
    made.node? (walkStep place step) = tree.node? (walkStep place step) := by
  cases known : tree.node? (walkStep place step) with
  | some node => exact more.kept known
  | none =>
    rw [Option.eq_none_iff_forall_ne_some]
    intro node found
    rcases more.gained found with same | ⟨-, short⟩
    · rw [known] at same
      cases same
    · rw [walkStep_long long, List.getLast?_concat] at short
      exact absurd (short step rfl) (Nat.not_le_of_lt long)

/-! Walks -/

section Walks
variable {tree made other : FileTree} {place path target : List String}

theorem walk_append (tree : FileTree) (place first rest : List String) :
    tree.walk place (first ++ rest) = tree.walk place first >>= fun middle => tree.walk middle rest := by
  induction first generalizing place with
  | nil => rfl
  | cons step later ih =>
    simp only [List.cons_append, walk]
    split
    · exact ih _
    · rfl
    · rfl

theorem Extends.walk (more : tree.Extends made) (leads : tree.walk place path = .ok target) :
    made.walk place path = .ok target := by
  induction path generalizing place with
  | nil => exact leads
  | cons step rest ih =>
    simp only [FileTree.walk] at leads ⊢
    split at leads
    next known =>
      rw [more.kept known]
      exact ih leads
    · cases leads
    · cases leads

/-- Of two trees that have more than a third, what leads somewhere in one leads there in the other, or to nothing. -/
theorem Extends.walk_or (first : tree.Extends made) (second : tree.Extends other)
    (leads : made.walk place path = .ok target) :
    other.walk place path = .ok target ∨ other.walk place path = .error .notFound := by
  induction path generalizing place with
  | nil => exact .inl leads
  | cons step rest ih =>
    simp only [FileTree.walk] at leads ⊢
    split at leads
    next known =>
      rcases found : other.node? (walkStep place step) with _ | _ | content
      · rcases Nat.lt_or_ge 255 step.utf8ByteSize with long | short
        · rw [first.long long, ← second.long long, found] at known
          cases known
        · exact .inr (by rw [if_neg (Nat.not_lt_of_ge short)])
      · exact ih leads
      · rw [first.kept (second.file found)] at known
        cases known
    · cases leads
    · cases leads

theorem walk_filter (leads : tree.walk place path = .ok target) : tree.walk place (path.filter (· != ".")) = .ok target := by
  induction path generalizing place with
  | nil => exact leads
  | cons step rest ih =>
    simp only [FileTree.walk] at leads
    split at leads
    next known =>
      rcases eq_or_ne step "." with rfl | moves
      · exact ih leads
      · rw [List.filter_cons_of_pos (by simpa using moves), FileTree.walk]
        simp only [known]
        exact ih leads
    · cases leads
    · cases leads

/-- Whether a path leads to a directory. -/
def Leads (tree : FileTree) (path : List String) : Prop := ∃ place, tree.walk [] path = .ok place

theorem leads_concat {before above : List String} (walked : tree.walk [] before = .ok above) (last : String) :
    tree.Leads (before ++ [last]) ↔ tree.node? (walkStep above last) = some .directory := by
  unfold Leads
  rw [walk_append, walked]
  simp only [bind, Except.bind, FileTree.walk]
  rcases tree.node? (walkStep above last) with _ | _ | content
  · exact iff_of_false nofun nofun
  · exact iff_of_true ⟨_, rfl⟩ rfl
  · exact iff_of_false nofun nofun

theorem leadsToDirectory_iff (tree : FileTree) (path : List String) :
    tree.leadsToDirectory path = true ↔ tree.Leads path := by
  unfold leadsToDirectory Leads
  cases tree.walk [] path with
  | ok place => exact iff_of_true rfl ⟨place, rfl⟩
  | error error => exact iff_of_false nofun nofun

theorem Leads.before {first rest : List String} (leads : tree.Leads (first ++ rest)) : tree.Leads first := by
  obtain ⟨place, walked⟩ := leads
  rw [walk_append] at walked
  cases before : tree.walk [] first with
  | ok middle => exact ⟨middle, before⟩
  | error error =>
    rw [before] at walked
    cases walked

theorem Leads.above (leads : tree.Leads path) : tree.Leads (FileTree.above path) := by
  obtain ⟨place, walked⟩ := leads
  have short : tree.Leads (path.filter (· != ".")) := ⟨place, walk_filter walked⟩
  rcases List.eq_nil_or_concat (path.filter (· != ".")) with none | ⟨before, last, split⟩
  · rw [FileTree.above, none]
    exact ⟨[], rfl⟩
  · rw [List.concat_eq_append] at split
    rw [split] at short
    rw [FileTree.above, split, List.dropLast_concat]
    exact short.before

end Walks

/-! One directory -/

section One
variable {tree made other out : FileTree} {path before above : List String} {last : String}

/-- What becomes of the last step of a path is told by what it leads to. -/
theorem ensureOne_concat (walked : tree.walk [] before = .ok above) :
    tree.ensureOne (before ++ [last]) =
      match tree.node? (walkStep above last) with
      | some .directory => .ok tree
      | some (.file _) => .error .exists
      | none =>
          if 255 < last.utf8ByteSize then .error .nameTooLong
          else if last = "." ∨ last = ".." then .error .notFound
          else .ok (tree.put (walkStep above last) .directory) := by
  have leads : tree.leadsToDirectory (before ++ [last]) = (tree.node? (walkStep above last) == some .directory) := by
    rw [Bool.eq_iff_iff, leadsToDirectory_iff, leads_concat walked, beq_iff_eq]
  rw [ensureOne, leads, makeDirectory, List.getLast?_concat, List.dropLast_concat, walked]
  simp only [bind, Except.bind]
  rcases tree.node? (walkStep above last) with _ | _ | content
  · simp only [Option.isSome_none, Bool.false_eq_true, if_false]
    split
    next made same =>
      rw [← same]
    next error same =>
      rw [← same]
      rfl
  · rfl
  · rfl

theorem ensureOne_lost {error : FileError} (lost : tree.walk [] before = .error error) :
    tree.ensureOne (before ++ [last]) = .error error := by
  have leads : tree.leadsToDirectory (before ++ [last]) = false := by
    rw [leadsToDirectory, walk_append, lost]
    rfl
  rw [ensureOne, leads, makeDirectory, List.getLast?_concat, List.dropLast_concat, lost]
  rfl

theorem ensureOne_of_leads (leads : tree.Leads path) : tree.ensureOne path = .ok tree := by
  rcases List.eq_nil_or_concat path with rfl | ⟨before, last, rfl⟩
  · rfl
  · rw [List.concat_eq_append] at leads ⊢
    obtain ⟨above, walked⟩ := leads.before
    rw [ensureOne_concat walked, (leads_concat walked last).mp leads]

/-- A directory that is made, or that was there: either way the path above leads somewhere. -/
theorem ensureOne_ok (ensured : tree.ensureOne path = .ok out) :
    tree.Leads path ∧ out = tree ∨
      ∃ before last above, path = before ++ [last] ∧ tree.walk [] before = .ok above ∧
        tree.node? (walkStep above last) = none ∧ last.utf8ByteSize ≤ 255 ∧ ¬ (last = "." ∨ last = "..") ∧
        out = tree.put (walkStep above last) .directory := by
  rcases List.eq_nil_or_concat path with rfl | ⟨before, last, rfl⟩
  · cases ensured
    exact .inl ⟨⟨[], rfl⟩, rfl⟩
  · rw [List.concat_eq_append] at ensured ⊢
    rcases walked : tree.walk [] before with error | above
    · rw [ensureOne_lost walked] at ensured
      cases ensured
    · rw [ensureOne_concat walked] at ensured
      rcases found : tree.node? (walkStep above last) with _ | _ | content
      · rw [found] at ensured
        dsimp only at ensured
        split at ensured
        · cases ensured
        next short =>
          split at ensured
          · cases ensured
          next named =>
            cases ensured
            exact .inr ⟨before, last, above, rfl, walked, found, Nat.le_of_not_lt short, named, rfl⟩
      · rw [found] at ensured
        cases ensured
        exact .inl ⟨(leads_concat walked last).mpr found, rfl⟩
      · rw [found] at ensured
        cases ensured

theorem extends_put (free : tree.node? (walkStep above last) = none) (short : last.utf8ByteSize ≤ 255)
    (named : ¬ (last = "." ∨ last = "..")) : tree.Extends (tree.put (walkStep above last) .directory) := by
  constructor
  · intro place node known
    rw [node?_put tree (ne_root free), if_neg]
    · exact known
    · rintro rfl
      rw [free] at known
      cases known
  · intro place node found
    rw [node?_put tree (ne_root free)] at found
    split at found
    next here =>
      cases found
      refine .inr ⟨rfl, ?_⟩
      rw [not_or] at named
      rw [here, walkStep, if_neg named.1, if_neg named.2, List.getLast?_concat]
      intro name member
      cases member
      exact short
    · exact .inl found

theorem ensureOne_extends (ensured : tree.ensureOne path = .ok out) : tree.Extends out := by
  rcases ensureOne_ok ensured with ⟨-, rfl⟩ | ⟨before, last, above, rfl, walked, free, short, named, rfl⟩
  · exact .refl _
  · exact extends_put free short named

theorem ensureOne_leads (ensured : tree.ensureOne path = .ok out) : out.Leads path := by
  rcases ensureOne_ok ensured with ⟨leads, rfl⟩ | ⟨before, last, above, rfl, walked, free, short, named, rfl⟩
  · exact leads
  · rw [leads_concat ((extends_put free short named).walk walked), node?_put tree (ne_root free), if_pos rfl]

/-- A tree in which a path leads somewhere already has what is made of another for it. -/
theorem ensureOne_within (more : tree.Extends other) (leads : other.Leads path) (ensured : tree.ensureOne path = .ok out) :
    out.Extends other := by
  rcases ensureOne_ok ensured with ⟨-, rfl⟩ | ⟨before, last, above, rfl, walked, free, short, named, rfl⟩
  · exact more
  · have known := (leads_concat (more.walk walked) last).mp leads
    constructor
    · intro place node found
      rw [node?_put tree (ne_root free)] at found
      split at found
      next here =>
        cases found
        rw [here, known]
      · exact more.kept found
    · intro place node found
      rw [node?_put tree (ne_root free)]
      split
      next here =>
        rw [here, known] at found
        exact .inl found
      · exact more.gained found

/-- What can be made can be made where there is more. -/
theorem ensureOne_mono (more : tree.Extends other) (ensured : tree.ensureOne path = .ok out) :
    ∃ made, other.ensureOne path = .ok made := by
  rcases ensureOne_ok ensured with ⟨⟨place, leads⟩, -⟩ | ⟨before, last, above, rfl, walked, free, short, named, -⟩
  · exact ⟨other, ensureOne_of_leads ⟨place, more.walk leads⟩⟩
  · rw [ensureOne_concat (more.walk walked)]
    rcases found : other.node? (walkStep above last) with _ | node
    · exact ⟨_, by rw [if_neg (Nat.not_lt_of_ge short), if_neg named]⟩
    · rcases more.gained found with known | ⟨rfl, -⟩
      · rw [free] at known
        cases known
      · exact ⟨other, rfl⟩

/-- Of two trees that have more than a third, what can be made in one can be made in the other, if only the way is
there. -/
theorem ensureOne_or (first : tree.Extends made) (second : tree.Extends other) (ensured : made.ensureOne path = .ok out) :
    (∃ done, other.ensureOne path = .ok done) ∨ other.ensureOne path = .error .notFound := by
  rcases List.eq_nil_or_concat path with rfl | ⟨before, last, rfl⟩
  · exact .inl ⟨other, rfl⟩
  · rw [List.concat_eq_append] at ensured ⊢
    rcases walked : made.walk [] before with error | above
    · rw [ensureOne_lost walked] at ensured
      cases ensured
    · rw [ensureOne_concat walked] at ensured
      rcases first.walk_or second walked with same | lost
      · rw [ensureOne_concat same]
        rcases found : other.node? (walkStep above last) with _ | _ | content
        · dsimp only
          split
          next long =>
            rw [first.long long, ← second.long long, found] at ensured
            dsimp only at ensured
            rw [if_pos long] at ensured
            cases ensured
          · split
            · exact .inr rfl
            · exact .inl ⟨_, rfl⟩
        · exact .inl ⟨other, rfl⟩
        · rw [first.kept (second.file found)] at ensured
          cases ensured
      · exact .inr (ensureOne_lost lost)

end One

/-! Directories on the way -/

section Way
variable {tree made other : FileTree} {path : List String}

theorem keep_extends {outcome : Except FileError FileTree} (more : tree.Extends other)
    (each : ∀ made, outcome = .ok made → made.Extends other) : (tree.keep outcome).2.Extends other := by
  cases outcome with
  | error error => exact more
  | ok made => exact each made rfl

theorem keep_ok {outcome : Except FileError FileTree} (made : (tree.keep outcome).1 = .ok ()) :
    outcome = .ok (tree.keep outcome).2 := by
  cases outcome with
  | error error => cases made
  | ok made => rfl

theorem extends_keep {outcome : Except FileError FileTree} (each : ∀ made, outcome = .ok made → tree.Extends made) :
    tree.Extends (tree.keep outcome).2 := by
  cases outcome with
  | error error => exact .refl tree
  | ok made => exact each made rfl

theorem makeDirectories_extends (tree : FileTree) (path : List String) : tree.Extends (tree.makeDirectories path).2 := by
  fun_induction makeDirectories with
  | case1 => exact .refl tree
  | case2 step rest missing made above ih =>
    rw [above] at ih
    exact ih.trans (extends_keep fun _ => ensureOne_extends)
  | case3 step rest missing failed ih => exact ih
  | case4 step rest missing => exact extends_keep fun _ => ensureOne_extends

theorem makeDirectories_leads (tree : FileTree) (path : List String) :
    (tree.makeDirectories path).1 = .ok () → (tree.makeDirectories path).2.Leads path := by
  fun_cases makeDirectories tree path with
  | case1 => exact fun _ => ⟨[], rfl⟩
  | case2 step rest missing made => exact fun makes => ensureOne_leads (keep_ok makes)
  | case3 step rest missing failed => exact fun makes => (failed _ (Prod.ext makes rfl)).elim
  | case4 step rest => exact fun makes => ensureOne_leads (keep_ok makes)

theorem makeDirectories_within (more : tree.Extends other) (leads : other.Leads path) :
    (tree.makeDirectories path).2.Extends other := by
  fun_induction makeDirectories with
  | case1 => exact more
  | case2 step rest missing made above ih =>
    have within := ih leads.above
    rw [above] at within
    exact keep_extends within fun _ => ensureOne_within within leads
  | case3 step rest missing failed ih => exact ih leads.above
  | case4 step rest missing => exact keep_extends more fun _ => ensureOne_within more leads

/-- Directories that can be made can be made where there is more. -/
theorem makeDirectories_mono (more : tree.Extends other) :
    (tree.makeDirectories path).1 = .ok () → (other.makeDirectories path).1 = .ok () := by
  fun_induction makeDirectories tree path generalizing other with
  | case1 => exact fun _ => by rw [makeDirectories]
  | case2 step rest missing middle above ih =>
    intro makes
    have base : tree.Extends middle := by
      have gained := tree.makeDirectories_extends (FileTree.above (step :: rest))
      rwa [above] at gained
    rcases ensureOne_or base more (keep_ok makes) with ⟨done, ensured⟩ | lost
    · rw [makeDirectories, ensured]
      rfl
    · -- The directories above are made here too, and have all that was made there.
      have reached := ih more (by rw [above])
      have grown := other.makeDirectories_extends (FileTree.above (step :: rest))
      have within := makeDirectories_within (more.trans grown) (makeDirectories_leads other _ reached)
      rw [above] at within
      obtain ⟨done, ensured⟩ := ensureOne_mono within (keep_ok makes)
      rw [makeDirectories, lost]
      rcases made : other.makeDirectories (FileTree.above (step :: rest)) with ⟨outcome, left⟩
      rw [made] at reached ensured
      cases reached
      dsimp only at ensured ⊢
      rw [ensured]
      rfl
  | case3 step rest missing failed ih => exact fun makes => (failed _ (Prod.ext makes rfl)).elim
  | case4 step rest missing =>
    intro makes
    obtain ⟨done, ensured⟩ := ensureOne_mono more (keep_ok makes)
    rw [makeDirectories, ensured]
    rfl

theorem makeNamed_extends (tree : FileTree) (path : String) : tree.Extends (tree.makeNamed path).2 := by
  unfold makeNamed
  split
  · exact .refl tree
  · split
    · exact .refl tree
    · exact tree.makeDirectories_extends _

/-- A path that can be made in one tree is written well for every other. -/
theorem makeNamed_eq {path : String} (made : (tree.makeNamed path).1 = .ok ()) (other : FileTree) :
    other.makeNamed path = other.makeDirectories (steps path) := by
  unfold makeNamed at made ⊢
  split at made
  · cases made
  next whole =>
    split at made
    · cases made
    next short => rw [if_neg whole, if_neg short]

theorem makeNamed_leads {path : String} (made : (tree.makeNamed path).1 = .ok ()) :
    (tree.makeNamed path).2.Leads (steps path) := by
  have same := makeNamed_eq made tree
  rw [same] at made ⊢
  exact tree.makeDirectories_leads _ made

theorem makeNamed_mono {path : String} (more : tree.Extends other) (made : (tree.makeNamed path).1 = .ok ()) :
    (other.makeNamed path).1 = .ok () := by
  have same := makeNamed_eq made
  rw [same] at made ⊢
  exact makeDirectories_mono more made

end Way
end EntityStore.FileTree
