import EntityStore.Proofs.Agenda
import EntityStore.Script

/-! Reads of stores whose calls succeed. Such a store has a list of rows for every query to come, and its cursor hands
them out one by one. What a read makes of them is a function of these lists. -/

namespace EntityStore
variable {E σ : Type}

/-- What a store has ready: the rows for each query to come, in the order of the queries, and its open cursor. -/
structure Offer where
  results : List (Request × List Row)
  cursor : Cursor

/-- Every call succeeds in the states that offer something, and the queries and the cursor go through the offer. The
limit of a cursor is never below the number of its rows. -/
structure Store.Serves (store : Store σ) (offers : σ → Offer → Prop) : Prop where
  begin {state : σ} {offer : Offer} (ready : offers state offer) :
    ∃ next, store.answer .begin state = (.ok (), next) ∧ offers next offer
  query {state : σ} {statement : Statement} {parameters : List Value} {rows : List Row}
    {results : List (Request × List Row)} {cursor : Cursor}
    (ready : offers state ⟨(.query statement parameters, rows) :: results, cursor⟩) :
    ∃ limit next, store.answer (.query statement parameters) state = (.ok limit, next) ∧ rows.length ≤ limit ∧
      offers next ⟨results, .ofRows rows⟩
  advance {state : σ} {row : Row} {rest : List Row} {results : List (Request × List Row)} {current : Option Row}
    {limit : Nat} (ready : offers state ⟨results, row :: rest, current⟩) (more : rest.length < limit) :
    ∃ (left : Fin limit) (next : σ), store.answer (.advance limit) state = (.ok (some left), next) ∧
      rest.length ≤ left ∧ offers next ⟨results, rest, some row⟩
  exhausted {state : σ} {results : List (Request × List Row)} {current : Option Row}
    (ready : offers state ⟨results, [], current⟩) (limit : Nat) :
    ∃ next, store.answer (.advance limit) state = (.ok none, next) ∧ offers next ⟨results, [], none⟩
  scan {state : σ} {row : Row} {rest : List Row} {results : List (Request × List Row)}
    (ready : offers state ⟨results, rest, some row⟩) :
    ∃ next, store.answer .scan state = (.ok row, next) ∧ offers next ⟨results, rest, some row⟩
  close {state : σ} {results : List (Request × List Row)} {cursor : Cursor} (ready : offers state ⟨results, cursor⟩) :
    ∃ next left, store.answer .close state = ((), next) ∧ offers next ⟨results, left⟩
  check {state : σ} {offer : Offer} (ready : offers state offer) :
    ∃ next, store.answer .check state = (.ok (), next) ∧ offers next offer
  commit {state : σ} {offer : Offer} (ready : offers state offer) : ∃ next, store.answer .commit state = (.ok (), next)
  rollback {state : σ} {offer : Offer} (ready : offers state offer) :
    ∃ next, store.answer .rollback state = (.ok (), next)

namespace Mapping
variable (mapping : Mapping E)

/-- An entity with one of its collections, which is decoded from column zero of its rows. -/
def joined (entity : E) (index : Nat) (rows : List Row) : Except CodecError E := do
  mapping.decodeCollection entity index (← rows.mapM (Codec.column · 0))

def gathered (entity : E) (index : Nat) (results : List (List Row)) : Except CodecError E :=
  (results.zipIdx index).foldlM (fun entity (rows, index) => mapping.joined entity index rows) entity

/-- The entity in the rows of its table and in those of its collections. Only the first row of its table counts. -/
def rebuilt (id : String) (parents : List Row) (others : List (List Row)) : Except CrudError E :=
  match parents with
  | [] => .error (mapping.notFound id)
  | row :: _ => (do mapping.gathered (← mapping.decodeRow row) 0 others : Except CodecError E).mapError .codec

/-- How a read goes with the rows that the store returns for the entity and for each of its collections. -/
structure Rebuilds (id : String) (parents : List Row) (others : List (List Row)) (exchanges : List Exchange)
    (outcome : Except CrudError (Reply E)) : Prop where
  outcome : outcome = (mapping.rebuilt id parents others).map .found
  /-- A collection is queried just where all that comes before it can be rebuilt. -/
  queried : ∃ reached, Exchange.statements exchanges = (mapping.agenda (.read id)).take (reached + 1) ∧
    ∀ index < mapping.schema.collections.length,
      index < reached ↔ (mapping.rebuilt id parents (others.take index)).isOk = true

end Mapping

/-- Wherever an offer is ready, an operation has an outcome and issues certain statements, and the store serves on. -/
def Store.Turns (store : Store σ) (offers : σ → Offer → Prop) (operation : Operation α) (offer : Offer)
    (outcome : Except CrudError α) (asked : List Request) : Prop :=
  ∀ state, offers state offer → ∃ ended left, operation.result store state = (outcome, ended) ∧
    Exchange.statements (operation.exchanges store state) = asked ∧ offers ended left

namespace Store.Serves
variable {α β : Type} {store : Store σ} {offers : σ → Offer → Prop} {outcome : Except CrudError β}
  {asked : List Request} {statement : Statement} {parameters : List Value} {row : Row} {rows rest : List Row}
  {results : List (Request × List Row)} {cursor : Cursor} {current : Option Row} {limit : Nat} {offer : Offer}

theorem turns_pure (store : Store σ) (offers : σ → Offer → Prop) (value : β) (offer : Offer) :
    store.Turns offers (pure value) offer (.ok value) [] :=
  fun state ready => ⟨state, offer, rfl, rfl, ready⟩

theorem turns_throw (store : Store σ) (offers : σ → Offer → Prop) (error : CrudError) (offer : Offer) :
    store.Turns offers (throw error : Operation β) offer (.error error) [] :=
  fun state ready => ⟨state, offer, rfl, rfl, ready⟩

theorem turns_ofStatement (answer : Procedure (Except StatementError α)) {next : α → Operation β} {state moved : σ}
    {value : α} {left : Offer} {first : List Request} (answered : answer.run store state = (.ok value, moved))
    (said : Exchange.statements (answer.exchanges store state) = first) (ready : offers moved left)
    (turns : store.Turns offers (next value) left outcome asked) :
    ∃ ended left, (Operation.ofStatement answer >>= next).result store state = (outcome, ended) ∧
      Exchange.statements ((Operation.ofStatement answer >>= next).exchanges store state) = first ++ asked ∧
      offers ended left := by
  obtain ⟨ended, left, ran, issued, still⟩ := turns moved ready
  refine ⟨ended, left, ?_, ?_, still⟩
  · rw [Operation.result_bind, Operation.result_ofStatement, answered]
    exact ran
  · rw [Operation.exchanges_bind, Operation.result_ofStatement, Operation.exchanges_ofStatement, answered,
      Exchange.statements_append, said]
    exact congrArg _ issued

variable (serves : store.Serves offers)
include serves

theorem turns_query {next : Nat → Operation β}
    (later : ∀ limit, rows.length ≤ limit → store.Turns offers (next limit) ⟨results, .ofRows rows⟩ outcome asked) :
    store.Turns offers (Operation.query statement parameters >>= next)
      ⟨(.query statement parameters, rows) :: results, cursor⟩ outcome (.query statement parameters :: asked) := by
  intro state ready
  obtain ⟨limit, moved, answered, enough, ready⟩ := serves.query ready
  exact turns_ofStatement (Procedure.ask (.query statement parameters)) answered rfl ready (later limit enough)

theorem turns_advance {next : Option (Fin limit) → Operation β} (more : rest.length < limit)
    (later : ∀ left : Fin limit, rest.length ≤ left →
      store.Turns offers (next (some left)) ⟨results, rest, some row⟩ outcome asked) :
    store.Turns offers (Operation.advance limit >>= next) ⟨results, row :: rest, current⟩ outcome asked := by
  intro state ready
  obtain ⟨left, moved, answered, enough, ready⟩ := serves.advance ready more
  exact turns_ofStatement (Procedure.ask (.advance limit)) answered rfl ready (later left enough)

theorem turns_exhausted {next : Option (Fin limit) → Operation β}
    (later : store.Turns offers (next none) ⟨results, [], none⟩ outcome asked) :
    store.Turns offers (Operation.advance limit >>= next) ⟨results, [], current⟩ outcome asked := by
  intro state ready
  obtain ⟨moved, answered, ready⟩ := serves.exhausted ready limit
  exact turns_ofStatement (Procedure.ask (.advance limit)) answered rfl ready later

theorem turns_scan {next : Row → Operation β}
    (later : store.Turns offers (next row) ⟨results, rest, some row⟩ outcome asked) :
    store.Turns offers (Operation.scan >>= next) ⟨results, rest, some row⟩ outcome asked := by
  intro state ready
  obtain ⟨moved, answered, ready⟩ := serves.scan ready
  exact turns_ofStatement (Procedure.ask .scan) answered rfl ready later

theorem turns_close {next : Unit → Operation β}
    (later : ∀ left, store.Turns offers (next ()) ⟨results, left⟩ outcome asked) :
    store.Turns offers (Operation.close >>= next) ⟨results, cursor⟩ outcome asked := by
  intro state ready
  obtain ⟨moved, left, answered, ready⟩ := serves.close ready
  obtain ⟨ended, still, ran, issued, ready⟩ := later left moved ready
  have closed : Operation.close.result store state = (.ok (), moved) := by
    change (Except.ok (), (store.answer .close state).2) = _
    rw [answered]
  refine ⟨ended, still, ?_, ?_, ready⟩
  · rw [Operation.result_bind, closed]
    exact ran
  · rw [Operation.exchanges_bind, closed, Exchange.statements_append]
    exact issued

omit serves in
theorem turns_ofCodec {decoded : Except CodecError α} {next : α → Operation β}
    (later : ∀ value, decoded = .ok value → store.Turns offers (next value) offer outcome asked)
    (fails : ∀ error, decoded = .error error → outcome = .error (.codec error) ∧ asked = []) :
    store.Turns offers (Operation.ofCodec decoded >>= next) offer outcome asked := by
  cases decoded with
  | error error =>
    obtain ⟨rfl, rfl⟩ := fails error rfl
    exact turns_throw store offers (.codec error) offer
  | ok value => exact later value rfl

/-- All rows of a cursor are taken in their order, up to the first that has no column zero. -/
theorem turns_collect {read : List Value} {next : List Value → Operation β} (enough : rows.length ≤ limit)
    (later : ∀ values, rows.mapM (Codec.column · 0) = .ok values →
      store.Turns offers (next (read.reverse ++ values)) ⟨results, [], none⟩ outcome asked)
    (fails : ∀ error, rows.mapM (Codec.column · 0) = .error error → outcome = .error (.codec error) ∧ asked = []) :
    store.Turns offers (Operation.collect limit read >>= next) ⟨results, rows, current⟩ outcome asked := by
  induction rows generalizing limit read current with
  | nil =>
    rw [Operation.collect, bind_assoc]
    refine serves.turns_exhausted ?_
    simpa using later [] rfl
  | cons row rest ih =>
    rw [Operation.collect, bind_assoc]
    refine serves.turns_advance enough fun left enough => ?_
    rw [bind_assoc]
    refine serves.turns_scan ?_
    rw [bind_assoc]
    refine turns_ofCodec (fun value held => ih enough (fun values known => ?_) fun error missing => ?_)
      fun error missing => ?_
    · rw [List.reverse_cons, List.append_assoc]
      refine later (value :: values) ?_
      rw [List.mapM_cons, held, known]
      rfl
    · refine fails error ?_
      rw [List.mapM_cons, held, missing]
      rfl
    · refine fails error ?_
      rw [List.mapM_cons, missing]
      rfl

end Store.Serves

namespace Script

def answered (rows : List Row) : ScriptedResponse := ⟨none, rows, none, false, .noCurrentRow⟩

/-- A script that answers each statement with the next of some lists of rows. -/
def answering (results : List (List Row)) : Script := ⟨none, none, none, results.map answered, none⟩

structure Offers (state : State) (offer : Offer) : Prop where
  script : ∃ results, state.script = answering results
  live : state.token.check = .ok ()
  responses : state.responses = offer.results.map fun result => answered result.2
  current : ∃ rows, state.current = answered rows
  cursor : state.cursor = offer.cursor

variable {state : State} {offer : Offer}

theorem Offers.record (ready : Offers state offer) (request : Request) : Offers (state.record request) offer := by
  obtain ⟨⟨results, script⟩, live, responses, current, cursor⟩ := ready
  have steady : (state.record request).token = state.token := by
    simp only [State.record, script]
    rfl
  exact ⟨⟨results, script⟩, steady ▸ live, responses, current, cursor⟩

theorem Offers.moved (ready : Offers state offer) (cursor : Cursor) (advances : Nat) :
    Offers { state with cursor := cursor, advances := advances } ⟨offer.results, cursor⟩ :=
  ⟨ready.script, ready.live, ready.responses, ready.current, rfl⟩

theorem Offers.answer_advance (ready : Offers state offer) (limit : Nat) :
    store.answer (.advance limit) state =
      let (moved, cursor) := offer.cursor.advance .live
      (moved.map (Request.advanced limit),
        { state.record (.advance limit) with cursor := cursor, advances := state.advances + 1 }) := by
  obtain ⟨-, -, -, ⟨rows, current⟩, cursor⟩ := ready
  have unplanned : ((state.record (.advance limit)).current.failAdvance ==
      some (state.record (.advance limit)).advances) = false := by
    rw [show (state.record (.advance limit)).current = answered rows from current]
    rfl
  have same : (state.record (.advance limit)).cursor = offer.cursor := cursor
  simp only [store, State.answer, unplanned, same, Bool.false_eq_true, if_false]
  rfl

theorem store_serves : store.Serves Offers where
  begin {state offer} ready := by
    obtain ⟨results, script⟩ := ready.script
    refine ⟨_, ?_, ready.record .begin⟩
    simp only [store, State.answer, script]
    rfl
  query {state statement parameters rows results cursor} ready := by
    have ready := ready.record (.query statement parameters)
    refine ⟨rows.length, { (state.record (.query statement parameters)) with
      responses := results.map fun result => answered result.2, current := answered rows, cursor := .ofRows rows,
      advances := 0 }, ?_, Nat.le_refl _, ready.script, ready.live, rfl, ⟨rows, rfl⟩, rfl⟩
    simp only [store, State.answer, State.next, ready.responses]
    rfl
  advance {state row rest results current limit} ready more := by
    refine ⟨⟨limit - 1, by omega⟩, _, ?_, Nat.le_sub_one_of_lt more,
      (ready.record (.advance limit)).moved ⟨rest, some row⟩ (state.advances + 1)⟩
    have found : Request.advanced limit true = some ⟨limit - 1, by omega⟩ := dif_pos ⟨rfl, by omega⟩
    rw [ready.answer_advance, ← found]
    rfl
  exhausted {state results current} ready limit := by
    refine ⟨_, ?_, (ready.record (.advance limit)).moved ⟨[], none⟩ (state.advances + 1)⟩
    have none : Request.advanced limit false = none := dif_neg (by simp)
    rw [ready.answer_advance, ← none]
    rfl
  scan {state row rest results} ready := by
    obtain ⟨rows, current⟩ := ready.current
    refine ⟨_, ?_, ready.record .scan⟩
    have same : (state.record .scan).cursor = ⟨rest, some row⟩ := ready.cursor
    have sound : (state.record .scan).current.failScan = false := congrArg ScriptedResponse.failScan current
    simp only [store, State.answer, same, sound]
    rfl
  close {state results cursor} ready := ⟨_, cursor, rfl, ready.record .close⟩
  check {state offer} ready := ⟨state, congrArg (·, state) ready.live, ready⟩
  commit {state offer} ready := by
    obtain ⟨results, script⟩ := ready.script
    refine ⟨state.record .commit, ?_⟩
    simp only [store, State.answer, script]
    rfl
  rollback {state offer} ready := by
    obtain ⟨results, script⟩ := ready.script
    refine ⟨state.record .rollback, ?_⟩
    simp only [store, State.answer, script]
    rfl

theorem offers_start (results : List (Request × List Row)) :
    Offers (start (answering (results.map (·.2))) .live) ⟨results, .ofRows []⟩ :=
  ⟨⟨_, rfl⟩, rfl, List.map_map, ⟨[], rfl⟩, rfl⟩

end Script

theorem isOk_mapError {ε ζ : Type} (outcome : Except ε E) (rename : ε → ζ) :
    (outcome.mapError rename).isOk = outcome.isOk := by
  cases outcome <;> rfl

namespace Mapping
variable {mapping : Mapping E} {store : Store σ} {offers : σ → Offer → Prop}

theorem gathered_cons (mapping : Mapping E) (entity : E) (index : Nat) (rows : List Row) (others : List (List Row)) :
    mapping.gathered entity index (rows :: others) =
      (mapping.joined entity index rows).bind (mapping.gathered · (index + 1) others) := rfl

theorem rebuilt_cons (mapping : Mapping E) (id : String) (row : Row) (more : List Row) (others : List (List Row)) :
    mapping.rebuilt id (row :: more) others =
      ((mapping.decodeRow row).bind (mapping.gathered · 0 others)).mapError .codec := rfl

theorem turns_collection (serves : store.Serves offers) {id : Value} {entity : E} {index : Nat}
    {collection : Collection} {rest : List Collection} {rows : List Row} {results : List (Request × List Row)} {cursor : Cursor}
    {outcome : Except CrudError E} {asked : List Request}
    (later : ∀ next, mapping.joined entity index rows = .ok next → ∀ left,
      store.Turns offers (mapping.readCollections id next (index + 1) rest) ⟨results, left⟩ outcome asked)
    (fails : ∀ error, mapping.joined entity index rows = .error error → outcome = .error (.codec error) ∧ asked = []) :
    store.Turns offers (mapping.readCollections id entity index (collection :: rest))
      ⟨(.query collection.select [id], rows) :: results, cursor⟩ outcome (.query collection.select [id] :: asked) := by
  unfold joined at later fails
  refine serves.turns_query fun limit enough => ?_
  refine serves.turns_collect enough (fun values held => ?_) fun error missing => fails error (by rw [missing]; rfl)
  rw [held] at later fails
  refine serves.turns_close fun left => ?_
  exact Store.Serves.turns_ofCodec (fun next decoded => later next decoded left) fun error failed => fails error failed

theorem turns_readCollections (serves : store.Serves offers) (id : Value) (results : List (Request × List Row))
    (collections : List Collection) (entity : E) (index : Nat) (others : List (List Row))
    (matching : others.length = collections.length) :
    let queries := collections.map fun collection => Request.query collection.select [id]
    ∃ reached, (∀ cursor, store.Turns offers (mapping.readCollections id entity index collections)
        ⟨queries.zip others ++ results, cursor⟩ ((mapping.gathered entity index others).mapError .codec)
        (queries.take reached)) ∧
      ∀ count < collections.length,
        count < reached ↔ (mapping.gathered entity index (others.take count)).isOk = true := by
  induction collections generalizing entity index others with
  | nil =>
    cases List.length_eq_zero_iff.mp matching
    refine ⟨0, fun cursor => Store.Serves.turns_pure store offers entity _, fun count few => ?_⟩
    exact absurd few (Nat.not_lt_zero count)
  | cons collection rest ih =>
    cases others with
    | nil => cases matching
    | cons rows others =>
      rw [gathered_cons]
      cases known : mapping.joined entity index rows with
      | error error =>
        refine ⟨1, fun cursor => ?_, fun count few => ?_⟩
        · refine turns_collection serves (fun next held => ?_) fun failed held => ?_
          · cases known.symm.trans held
          · cases known.symm.trans held
            exact ⟨rfl, rfl⟩
        · cases count with
          | zero => exact iff_of_true Nat.one_pos rfl
          | succ count =>
            rw [List.take_succ_cons, gathered_cons, known]
            exact iff_of_false (by omega) Bool.false_ne_true
      | ok next =>
        obtain ⟨reached, turns, counted⟩ := ih next (index + 1) others (Nat.succ.inj matching)
        refine ⟨reached + 1, fun cursor => ?_, fun count few => ?_⟩
        · refine turns_collection serves (fun following held left => ?_) fun failed held => ?_
          · cases known.symm.trans held
            exact turns left
          · cases known.symm.trans held
        · cases count with
          | zero => exact iff_of_true (Nat.succ_pos _) rfl
          | succ count =>
            rw [List.take_succ_cons, gathered_cons, known, Nat.succ_lt_succ_iff]
            exact counted count (Nat.lt_of_succ_lt_succ few)

theorem turns_readEntity (serves : store.Serves offers) (id : String) (parents : List Row) (others : List (List Row))
    (matching : others.length = mapping.schema.collections.length) (results : List (Request × List Row))
    (cursor : Cursor) :
    ∃ reached, store.Turns offers (mapping.readEntity id)
        ⟨(mapping.agenda (.read id)).zip (parents :: others) ++ results, cursor⟩ (mapping.rebuilt id parents others)
        ((mapping.agenda (.read id)).take (reached + 1)) ∧
      ∀ index < mapping.schema.collections.length,
        index < reached ↔ (mapping.rebuilt id parents (others.take index)).isOk = true := by
  cases parents with
  | nil =>
    refine ⟨0, ?_, fun index few => iff_of_false (Nat.not_lt_zero index) Bool.false_ne_true⟩
    refine serves.turns_query fun limit enough => ?_
    exact serves.turns_exhausted (Store.Serves.turns_throw store offers _ _)
  | cons row more =>
    have opening {outcome : Except CrudError E} {asked : List Request}
        (later : ∀ entity, mapping.decodeRow row = .ok entity → ∀ left, store.Turns offers
          (mapping.readCollections (Codec.encodeText id) entity 0 mapping.schema.collections)
          ⟨(mapping.agenda (.read id)).tail.zip others ++ results, left⟩ outcome asked)
        (fails : ∀ error, mapping.decodeRow row = .error error → outcome = .error (.codec error) ∧ asked = []) :
        store.Turns offers (mapping.readEntity id)
          ⟨(mapping.agenda (.read id)).zip ((row :: more) :: others) ++ results, cursor⟩ outcome
          (.query mapping.schema.select [Codec.encodeText id] :: asked) := by
      refine serves.turns_query fun limit enough => ?_
      refine serves.turns_advance enough fun left enough => serves.turns_scan ?_
      exact Store.Serves.turns_ofCodec (fun entity decoded => serves.turns_close (later entity decoded)) fails
    simp only [rebuilt_cons]
    cases known : mapping.decodeRow row with
    | error error =>
      refine ⟨0, opening (fun entity held => ?_) (fun failed held => ?_), fun index few => ?_⟩
      · cases known.symm.trans held
      · cases known.symm.trans held
        exact ⟨rfl, rfl⟩
      · exact iff_of_false (Nat.not_lt_zero index) Bool.false_ne_true
    | ok entity =>
      obtain ⟨reached, turns, counted⟩ := turns_readCollections serves (Codec.encodeText id) results
        mapping.schema.collections entity 0 others matching
      refine ⟨reached, opening (fun following held => ?_) (fun failed held => ?_), fun index few => ?_⟩
      · cases known.symm.trans held
        exact turns
      · cases known.symm.trans held
      · rw [counted index few, isOk_mapError]
        rfl

theorem turns_transacted {α : Type} {body : Operation α} {offer : Offer} {outcome ended : Except CrudError α}
    {asked : List Request} {state left : σ} {exchanges : List Exchange} (serves : store.Serves offers)
    (turns : store.Turns offers body offer outcome asked) (ready : offers state offer)
    (transacted : Operation.Transacted store body state ended left exchanges) :
    ended = outcome ∧ Exchange.statements exchanges = asked := by
  obtain ⟨opened, begun, ready⟩ := serves.begin ready
  obtain ⟨after, still, ran, issued, ready⟩ := turns opened ready
  have said : Exchange.statements exchanges = asked := by
    rcases statements_transacted transacted with ⟨⟨error, refused⟩, -⟩ | ⟨other, starting, same⟩
    · rw [begun] at refused
      cases refused
    · cases begun.symm.trans starting
      exact same.trans issued
  refine ⟨?_, said⟩
  cases transacted with
  | refused refused => cases begun.symm.trans refused
  | failed starting failing undone =>
    cases begun.symm.trans starting
    cases ran.symm.trans failing
    obtain ⟨last, rolledBack⟩ := serves.rollback ready
    cases rolledBack.symm.trans undone
    rfl
  | stopped starting succeeding looked undone =>
    cases begun.symm.trans starting
    cases ran.symm.trans succeeding
    obtain ⟨checked, looking, -⟩ := serves.check ready
    cases looking.symm.trans looked
  | uncommitted starting succeeding looked tried undone =>
    cases begun.symm.trans starting
    cases ran.symm.trans succeeding
    obtain ⟨checked, looking, ready⟩ := serves.check ready
    cases looking.symm.trans looked
    obtain ⟨last, kept⟩ := serves.commit ready
    cases kept.symm.trans tried
  | committed starting succeeding looked kept =>
    cases begun.symm.trans starting
    cases ran.symm.trans succeeding
    rfl

/-- A read on a store whose calls succeed gives the entity in the rows that the store returns, or the error of the first
step that fails. -/
theorem read_rebuilds (mapping : Mapping E) (store : Store σ) (offers : σ → Offer → Prop) (serves : store.Serves offers)
    (id : String) (parents : List Row) (others : List (List Row))
    (matching : others.length = mapping.schema.collections.length) (more : List (Request × List Row)) (cursor : Cursor)
    (state : σ) (ready : offers state ⟨(mapping.agenda (.read id)).zip (parents :: others) ++ more, cursor⟩) :
    mapping.Rebuilds id parents others (mapping.exchanges store (.read id) state)
      (mapping.perform store (.read id) state).1 := by
  obtain ⟨reached, turns, counted⟩ := turns_readEntity serves id parents others matching more cursor
  have around : mapping.operation (.read id) = do
      return .found (← Operation.inTransaction (mapping.readEntity id)) := rfl
  obtain ⟨outcome, transacted, same⟩ := transacted_around around store state
  obtain ⟨rebuilt, issued⟩ := turns_transacted serves turns ready transacted
  refine ⟨?_, reached, issued, counted⟩
  rw [(mapping.perform_eq store _ state).1, same, rebuilt]

theorem read_rebuilds_songs :
    let parents : List Row := [.text "s" :: .text "Sam" :: List.replicate 11 .null, [.null]]
    let badges : List Row := [[.integer 4, .text "later"], [.integer 1]]
    let songs : List Row := [[.text "Taps"], []]
    let results := (BoyScout.mapping.agenda (.read "s")).zip [parents, badges, songs, [], []]
    let state := Script.start (Script.answering (results.map (·.2))) .live
    BoyScout.mapping.Rebuilds "s" parents [badges, songs, [], []]
        (BoyScout.mapping.exchanges Script.store (.read "s") state)
        (BoyScout.mapping.perform Script.store (.read "s") state).1 ∧
      BoyScout.mapping.rebuilt "s" parents [badges] =
        .ok { id := "s", fullName := "Sam", badges := [.knots, .ballet] } ∧
      BoyScout.mapping.rebuilt "s" parents [badges, songs] = .error (.codec (.missingColumn 0)) := by
  refine ⟨?_, rfl, rfl⟩
  refine read_rebuilds BoyScout.mapping Script.store Script.Offers Script.store_serves "s" _ _ rfl [] (.ofRows []) _ ?_
  rw [List.append_nil]
  exact Script.offers_start _

end Mapping
end EntityStore
