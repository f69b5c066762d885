import EntityStore.Proofs.Causes

/-! The errors below an error, each the source of the one before. They come to an end. Below a failure they lead from
composite to first cause and so down to the first leaf, whose message is the last. Later causes are in the messages of
the composites that hold them, and have no place of their own. -/

namespace EntityStore
namespace ErrorLink
variable {link below : ErrorLink}

/-- The second error is the source of the first. -/
def Above (link below : ErrorLink) : Prop := link.source = some below

theorem sources_of_none (last : link.source = none) : link.sources = [] := by
  rw [sources]
  split
  · rfl
  · rename_i found
    rw [last] at found
    cases found

theorem sources_of_some (found : link.source = some below) : link.sources = below :: below.sources := by
  rw [sources]
  split
  · rename_i last
    rw [last] at found
    cases found
  · rename_i other same
    rw [found] at same
    cases same
    rfl

theorem isChain_sources (link : ErrorLink) : (link :: link.sources).IsChain Above := by
  induction link using sources.induct with
  | case1 link last =>
    rw [sources_of_none last]
    exact .singleton link
  | case2 link below found ih =>
    rw [sources_of_some found]
    exact .cons_cons found ih

theorem source_getLast (link : ErrorLink) :
    ((link :: link.sources).getLast (List.cons_ne_nil _ _)).source = none := by
  induction link using sources.induct with
  | case1 link last =>
    simp only [sources_of_none last, List.getLast_singleton]
    exact last
  | case2 link below found ih =>
    simp only [sources_of_some found, List.getLast_cons_cons]
    exact ih

theorem prefix_sources {chain : List ErrorLink} (linked : (link :: chain).IsChain Above) : chain <+: link.sources := by
  induction chain generalizing link with
  | nil => exact List.nil_prefix
  | cons below chain ih =>
    obtain ⟨found, later⟩ := List.isChain_cons_cons.mp linked
    rw [sources_of_some found]
    exact List.cons_prefix_cons.mpr ⟨rfl, ih later⟩

end ErrorLink

namespace CrudError

/-! ### First causes -/

def firstLeaf (error : CrudError) : CrudError := error.leaves.head error.leaves_ne_nil

theorem firstLeaf_of_isLeaf {error : CrudError} (leaf : error.IsLeaf) : error.firstLeaf = error := by
  unfold firstLeaf
  simp only [leaves_of_isLeaf leaf, List.head_cons]

theorem firstLeaf_composite (primary : CrudError) (others : List CrudError) :
    (composite primary others).firstLeaf = primary.firstLeaf := by
  unfold firstLeaf
  simp only [leaves, List.head_append_of_ne_nil primary.leaves_ne_nil]

/-- Each composite on the way to the first leaf, and then its first cause. -/
def passed : CrudError → List ErrorLink
  | .composite primary others => .composite primary others :: .crud primary :: primary.passed
  | .notFound .. | .codec _ | .statement _ => []

/-- What a leaf has below it. -/
def own : CrudError → List ErrorLink
  | .codec cause => [.codec cause]
  | .statement (.engine cause) => [.statement (.engine cause), .engine cause]
  | .statement cause => [.statement cause]
  | .notFound .. | .composite .. => []

theorem sources_composite (primary : CrudError) (others : List CrudError) :
    (ErrorLink.composite primary others).sources = .crud primary :: (ErrorLink.crud primary).sources :=
  ErrorLink.sources_of_some rfl

theorem sources_crud_composite (primary : CrudError) (others : List CrudError) :
    (ErrorLink.crud (.composite primary others)).sources =
      .composite primary others :: .crud primary :: (ErrorLink.crud primary).sources := by
  rw [ErrorLink.sources_of_some rfl, sources_composite]

theorem sources_of_isLeaf {error : CrudError} (leaf : error.IsLeaf) : (ErrorLink.crud error).sources = error.own := by
  cases error with
  | composite primary others => exact leaf.elim
  | notFound table id => exact ErrorLink.sources_of_none rfl
  | codec cause => rw [ErrorLink.sources_of_some rfl, ErrorLink.sources_of_none rfl, own]
  | statement cause =>
    rw [ErrorLink.sources_of_some rfl]
    cases cause with
    | engine cause => rw [ErrorLink.sources_of_some rfl, ErrorLink.sources_of_none rfl, own]
    | cancelled | deadlineExceeded | noCurrentRow | backend text => rw [ErrorLink.sources_of_none rfl]; rfl

theorem sources_eq (error : CrudError) : (ErrorLink.crud error).sources = error.passed ++ error.firstLeaf.own := by
  induction error using tree_induction with
  | leaf error leaf =>
    have direct : error.passed = [] := by
      cases error with
      | composite primary others => exact leaf.elim
      | notFound table id => rfl
      | codec cause => rfl
      | statement cause => rfl
    rw [sources_of_isLeaf leaf, direct, firstLeaf_of_isLeaf leaf, List.nil_append]
  | composite primary others ih =>
    rw [sources_crud_composite, ih primary List.mem_cons_self, passed, firstLeaf_composite]
    rfl

theorem getLast?_message (error : CrudError) :
    (ErrorLink.crud error :: (ErrorLink.crud error).sources).getLast?.map ErrorLink.message =
      some error.firstLeaf.message := by
  induction error using tree_induction with
  | leaf error leaf =>
    rw [sources_of_isLeaf leaf, firstLeaf_of_isLeaf leaf]
    cases error with
    | composite primary others => exact leaf.elim
    | notFound table id => rfl
    | codec cause => rfl
    | statement cause => cases cause <;> rfl
  | composite primary others ih =>
    rw [sources_crud_composite, firstLeaf_composite, List.getLast?_cons_cons, List.getLast?_cons_cons]
    exact ih primary List.mem_cons_self

/-! ### Later causes -/

/-- The failure without the later causes of the composites on the way to its first leaf. -/
def trunk : CrudError → CrudError
  | .composite primary _ => .composite primary.trunk []
  | .notFound table id => .notFound table id
  | .codec cause => .codec cause
  | .statement cause => .statement cause

end CrudError

namespace ErrorLink

def trunk : ErrorLink → ErrorLink
  | .crud cause => .crud cause.trunk
  | .composite primary _ => .composite primary.trunk []
  | .engine cause => .engine cause
  | .codec cause => .codec cause
  | .statement cause => .statement cause
  | .db cause => .db cause

theorem source_trunk (link : ErrorLink) : link.trunk.source = link.source.map trunk := by
  cases link with
  | crud cause => cases cause <;> rfl
  | composite primary others => rfl
  | engine cause => rfl
  | codec cause => rfl
  | statement cause => cases cause <;> rfl
  | db cause => cases cause <;> rfl

theorem sources_trunk (link : ErrorLink) : link.trunk.sources = link.sources.map trunk := by
  induction link using sources.induct with
  | case1 link last =>
    have pruned : link.trunk.source = none := by rw [source_trunk, last, Option.map_none]
    rw [sources_of_none last, sources_of_none pruned, List.map_nil]
  | case2 link below found ih =>
    have pruned : link.trunk.source = some below.trunk := by rw [source_trunk, found, Option.map_some]
    rw [sources_of_some found, sources_of_some pruned, ih, List.map_cons]

/-- The errors below come to an end. Whoever goes from source to source meets them in order, and meets as many where
composites have no later causes. -/
structure Descends (link : ErrorLink) : Prop where
  linked : (link :: link.sources).IsChain Above
  last : ((link :: link.sources).getLast (List.cons_ne_nil _ _)).source = none
  only : ∀ chain : List ErrorLink, (link :: chain).IsChain Above → chain <+: link.sources
  trunk : link.trunk.sources = link.sources.map ErrorLink.trunk

theorem descends (link : ErrorLink) : link.Descends where
  linked := isChain_sources link
  last := source_getLast link
  only _ := prefix_sources
  trunk := sources_trunk link

end ErrorLink

namespace CrudError

/-- The way down from a failure. -/
structure FollowsFirst (error : CrudError) : Prop where
  leaf : error.firstLeaf.IsLeaf
  path : (ErrorLink.crud error).sources = error.passed ++ error.firstLeaf.own

theorem followsFirst (error : CrudError) : error.FollowsFirst :=
  ⟨isLeaf_of_mem_leaves (List.head_mem error.leaves_ne_nil), sources_eq error⟩

/-- Where a composite is on its own or a failure carries it, its first leaf has the last word. -/
structure EndsFirst (primary : CrudError) (others : List CrudError) : Prop where
  below : (ErrorLink.composite primary others).sources = .crud primary :: (ErrorLink.crud primary).sources
  alone : (ErrorLink.composite primary others).sources.getLast?.map ErrorLink.message =
    some (composite primary others).firstLeaf.message
  carried : (ErrorLink.crud (composite primary others)).sources.getLast?.map ErrorLink.message =
    some (composite primary others).firstLeaf.message

theorem endsFirst (primary : CrudError) (others : List CrudError) : EndsFirst primary others := by
  have last := getLast?_message primary
  rw [← firstLeaf_composite primary others] at last
  refine ⟨sources_composite primary others, ?_, ?_⟩
  · rw [sources_composite]
    exact last
  · rw [sources_crud_composite, List.getLast?_cons_cons]
    exact last

/-- The errors below a failure come to an end. They are the composites on the way to the first leaf, each with its first
cause after it, and then what the leaf has below it. -/
theorem sources_followFirst :
    (∀ link : ErrorLink, link.Descends) ∧ (∀ error : CrudError, error.FollowsFirst) ∧
      ∀ (primary : CrudError) (others : List CrudError), EndsFirst primary others :=
  ⟨ErrorLink.descends, followsFirst, endsFirst⟩

end CrudError
end EntityStore
