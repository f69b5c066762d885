import EntityStore.Cursor
import EntityStore.Proofs.Families

/-! Cursors among tokens. Whatever is done in between, a cursor goes through its rows in their order and past the last
one, and where its token is lost it stays on the row that it is on. -/

namespace EntityStore

namespace Cursor

/-! ### Places of a cursor -/

/-- A cursor after so many advances that succeeded: it is on the row that the last one led to, if there was one. -/
def passed (rows : List Row) : Nat → Cursor
  | 0 => .ofRows rows
  | place + 1 => ⟨rows.drop (place + 1), rows[place]?⟩

def reading (rows : List Row) : Nat → Except StatementError Row
  | 0 => .error .noCurrentRow
  | place + 1 => rows[place]?.elim (.error .noCurrentRow) .ok

section Places
variable {token : Token} (rows : List Row) (place : Nat)

theorem rows_passed : (passed rows place).rows = rows.drop place := by cases place <;> rfl

theorem scan_passed : (passed rows place).scan = reading rows place := by
  cases place with
  | zero => rfl
  | succ place =>
    simp only [passed, reading, scan]
    cases rows[place]? <;> rfl

theorem advance_passed (live : token.check = .ok ()) :
    (passed rows place).advance token = (.ok (decide (place < rows.length)), passed rows (place + 1)) := by
  unfold advance
  rw [live, rows_passed]
  by_cases inside : place < rows.length
  · rw [List.drop_eq_getElem_cons inside]
    simp [passed, inside]
  · have ended := Nat.le_of_not_lt inside
    rw [List.drop_eq_nil_of_le ended]
    simp [passed, ended, Nat.le_succ_of_le ended]

end Places

theorem advance_refused {token : Token} {error : StatementError} (refused : token.check = .error error)
    (cursor : Cursor) : cursor.advance token = (.error error, cursor) := by
  unfold advance
  rw [refused]

/-! ### Moves among tokens -/

/-- A move of the cursor, or a step that anyone takes on any token. -/
inductive Move where
  | advance
  | scan
  | token (step : TokenStep)

inductive Answer where
  | advanced (outcome : Except StatementError Bool)
  | scanned (outcome : Except StatementError Row)
  | token (outcome : Except ClockOverflow TokenReply)

namespace Answer

def succeeds : Answer → Bool
  | .advanced (.ok _) => true
  | _ => false

def delivers : Answer → Bool
  | .advanced (.ok true) => true
  | _ => false

/-- No advance succeeds, and each scan reads what the cursor stands on. -/
def Stays (cursor : Cursor) : Answer → Prop
  | .advanced outcome => ∃ error, outcome = .error error
  | .scanned outcome => outcome = cursor.scan
  | .token _ => True

end Answer

structure Scene where
  cursor : Cursor
  tokens : Tokens

namespace Scene
variable (handle : Handle)

/-- What is done at a moment, by the one who holds this token with the cursor. -/
def move (scene : Scene) (now : Int) : Move → Answer × Scene
  | .advance =>
      let advanced := scene.cursor.advance (scene.tokens.view now handle)
      (.advanced advanced.1, { scene with cursor := advanced.2 })
  | .scan => (.scanned scene.cursor.scan, scene)
  | .token step =>
      let settled := scene.tokens.settle now step
      (.token settled.1, { scene with tokens := settled.2 })

def run (scene : Scene) : List (Int × Move) → List (Answer × Scene)
  | [] => []
  | (now, move) :: rest => scene.move handle now move :: (scene.move handle now move).2.run rest

def after (scene : Scene) (moves : List (Int × Move)) : Scene :=
  moves.foldl (fun scene (now, move) => (scene.move handle now move).2) scene

def successes (scene : Scene) (moves : List (Int × Move)) : Nat :=
  (scene.run handle moves).countP (·.1.succeeds)

def delivered (moved : Answer × Scene) : Option Row := if moved.1.delivers then moved.2.cursor.current else none

/-- The rows that the cursor comes to stand on. -/
def seen (scene : Scene) (moves : List (Int × Move)) : List Row := (scene.run handle moves).filterMap delivered

end Scene

def tokenSteps (moves : List (Int × Move)) : List (Int × TokenStep) :=
  moves.filterMap fun
    | (now, .token step) => some (now, step)
    | (_, .advance) | (_, .scan) => none

theorem tokenSteps_append (first rest : List (Int × Move)) :
    tokenSteps (first ++ rest) = tokenSteps first ++ tokenSteps rest := List.filterMap_append

namespace Scene
variable {scene : Scene} {rows : List Row} {place index : Nat} {steps : List (Int × TokenStep)} {handle : Handle}

/-- The cursor is at a place in its rows, and the tokens are those that steps have made. -/
structure Stands (scene : Scene) (rows : List Row) (place : Nat) (steps : List (Int × TokenStep)) : Prop where
  cursor : scene.cursor = passed rows place
  tokens : scene.tokens = Tokens.empty.after steps

theorem Stands.advance (stands : scene.Stands rows place steps) {now : Int}
    (live : (scene.tokens.view now handle).check = .ok ()) :
    scene.move handle now .advance =
      (.advanced (.ok (decide (place < rows.length))), { scene with cursor := passed rows (place + 1) }) := by
  simp only [move, stands.cursor, advance_passed rows place live]

theorem advance_refused {error : StatementError} {now : Int}
    (refused : (scene.tokens.view now handle).check = .error error) :
    scene.move handle now .advance = (.advanced (.error error), scene) := by
  simp only [move, Cursor.advance_refused refused]

theorem Stands.move (stands : scene.Stands rows place steps) (handle : Handle) (now : Int) (move : Move) :
    (scene.move handle now move).2.Stands rows (place + if (scene.move handle now move).1.succeeds then 1 else 0)
      (steps ++ tokenSteps [(now, move)]) := by
  cases move with
  | advance =>
    rw [show tokenSteps [(now, .advance)] = [] from rfl, List.append_nil]
    cases checked : (scene.tokens.view now handle).check with
    | ok live =>
      rw [stands.advance checked]
      exact ⟨rfl, stands.tokens⟩
    | error error =>
      rw [advance_refused checked]
      exact stands
  | scan =>
    rw [show tokenSteps [(now, .scan)] = [] from rfl, List.append_nil]
    exact stands
  | token step =>
    refine ⟨stands.cursor, ?_⟩
    change (scene.tokens.settle now step).2 = Tokens.empty.after (steps ++ [(now, step)])
    rw [stands.tokens, Tokens.after_append]
    rfl

theorem successes_cons (handle : Handle) (scene : Scene) (now : Int) (move : Move) (moves : List (Int × Move)) :
    scene.successes handle ((now, move) :: moves) = (if (scene.move handle now move).1.succeeds then 1 else 0) +
      (scene.move handle now move).2.successes handle moves := by
  rw [successes, run, List.countP_cons, Nat.add_comm]
  rfl

theorem Stands.after (stands : scene.Stands rows place steps) (handle : Handle) (moves : List (Int × Move)) :
    (scene.after handle moves).Stands rows (place + scene.successes handle moves) (steps ++ tokenSteps moves) := by
  induction moves generalizing scene place steps with
  | nil =>
    rw [show tokenSteps [] = [] from rfl, List.append_nil]
    exact stands
  | cons timed moves ih =>
    obtain ⟨now, move⟩ := timed
    have later := ih (stands.move handle now move)
    rwa [List.append_assoc, ← tokenSteps_append, Nat.add_assoc, ← successes_cons] at later

theorem seen_cons (handle : Handle) (scene : Scene) (now : Int) (move : Move) (moves : List (Int × Move)) :
    scene.seen handle ((now, move) :: moves) =
      (delivered (scene.move handle now move)).toList ++ (scene.move handle now move).2.seen handle moves := by
  rw [seen, run, List.filterMap_cons]
  cases delivered (scene.move handle now move) <;> rfl

/-- The rows that a cursor comes to stand on are the next ones, in their order and each once. -/
theorem Stands.seen (stands : scene.Stands rows place steps) (handle : Handle) (moves : List (Int × Move)) :
    scene.seen handle moves = (rows.drop place).take (scene.successes handle moves) := by
  induction moves generalizing scene place steps with
  | nil => rfl
  | cons timed moves ih =>
    obtain ⟨now, move⟩ := timed
    have later := ih (stands.move handle now move)
    rw [seen_cons, successes_cons, later]
    cases move with
    | advance =>
      cases checked : (scene.tokens.view now handle).check with
      | ok live =>
        rw [stands.advance checked]
        by_cases inside : place < rows.length
        · have row : rows[place]? = some rows[place] := List.getElem?_eq_getElem inside
          simp only [delivered, inside, decide_true, Answer.delivers, Answer.succeeds, if_true, passed, row,
            List.drop_eq_getElem_cons inside, Nat.add_comm 1, List.take_succ_cons]
          rfl
        · have ended : rows.drop place = [] := List.drop_eq_nil_of_le (Nat.le_of_not_lt inside)
          have past : rows.drop (place + 1) = [] := List.drop_eq_nil_of_le (Nat.le_succ_of_le (Nat.le_of_not_lt inside))
          simp [delivered, inside, Answer.delivers, Answer.succeeds, ended, past]
      | error error =>
        rw [advance_refused checked]
        simp [delivered, Answer.delivers, Answer.succeeds]
    | scan | token => simp [delivered, Scene.move, Answer.delivers, Answer.succeeds]

theorem Stands.tells (stands : scene.Stands rows place steps)
    (found : (Tokens.empty.after steps).handles[index]? = some handle) (now : Int) :
    Tokens.Tells (Tokens.empty.history steps) now index (scene.tokens.view now handle).check := by
  have mirrors := Tokens.mirrors_after steps
  rw [stands.tokens]
  exact Tokens.tells_check (mirrors.cancelled_iff now found) (mirrors.expired_iff now found)

/-- A cursor whose token is lost stays where it is, whatever else is done from then on. -/
theorem Stands.stays (stands : scene.Stands rows place steps) {now : Int}
    (found : (Tokens.empty.after steps).handles[index]? = some handle)
    (lost : Tokens.Cancelled (Tokens.empty.history steps) index ∨ Tokens.Due (Tokens.empty.history steps) now index)
    {moves : List (Int × Move)} (passed : ∀ timed ∈ moves, now ≤ timed.1) :
    (scene.after handle moves).cursor = scene.cursor ∧
      ∀ moved ∈ scene.run handle moves, moved.1.Stays scene.cursor := by
  induction moves generalizing scene place steps with
  | nil => exact ⟨rfl, nofun⟩
  | cons timed moves ih =>
    obtain ⟨moment, move⟩ := timed
    obtain ⟨here, later⟩ := List.forall_mem_cons.mp passed
    have due := lost.imp_right fun due => due.lasts List.prefix_rfl here (.refl _)
    obtain ⟨error, refused⟩ := (stands.tells found moment).failed.mpr due
    have kept : (scene.move handle moment move).2.cursor = scene.cursor ∧
        (scene.move handle moment move).1.Stays scene.cursor := by
      cases move with
      | advance =>
        rw [advance_refused refused]
        exact ⟨rfl, error, rfl⟩
      | scan => exact ⟨rfl, rfl⟩
      | token step => exact ⟨rfl, trivial⟩
    have early : Tokens.empty.history steps <+: Tokens.empty.history (steps ++ tokenSteps [(moment, move)]) := by
      rw [Tokens.history_append]
      exact List.prefix_append _ _
    have lost := lost.imp (fun cancelled => cancelled.lasts early (.refl _)) fun due =>
      due.lasts early (Int.le_refl now) (.refl _)
    have still := ih (stands.move handle moment move) (Tokens.getElem?_append found _) lost later
    rw [kept.1] at still
    exact ⟨still.1, List.forall_mem_cons.mpr ⟨kept.2, still.2⟩⟩

end Scene

/-- A cursor answers by how many advances have succeeded so far, whatever else was done. A scan reads the row that the
last of them led to, the next one succeeds while its token is live and finds whether there is another row, and the rows
until then are the first ones, in order and each once. An advance that finds the token lost leaves everything as it is,
and from then on no other succeeds and the cursor stays on its row. -/
theorem moves_inOrder (rows : List Row) (steps : List (Int × TokenStep)) (index : Nat) (handle : Handle)
    (found : (Tokens.empty.after steps).handles[index]? = some handle) (moves : List (Int × Move)) (now : Int) :
    let start : Scene := ⟨.ofRows rows, Tokens.empty.after steps⟩
    let scene := start.after handle moves
    let place := start.successes handle moves
    scene.move handle now .scan = (.scanned (reading rows place), scene) ∧
      start.seen handle moves = rows.take place ∧
      ∃ outcome, Tokens.Tells (Tokens.empty.history (steps ++ tokenSteps moves)) now index outcome ∧
        (outcome = .ok () →
          (scene.move handle now .advance).1 = .advanced (.ok (decide (place < rows.length))) ∧
          (scene.move handle now .advance).2.cursor.scan = reading rows (place + 1)) ∧
        ∀ error, outcome = .error error →
          scene.move handle now .advance = (.advanced (.error error), scene) ∧
          ∀ more : List (Int × Move), (∀ timed ∈ more, now ≤ timed.1) →
            (scene.after handle more).cursor = scene.cursor ∧
            ∀ moved ∈ scene.run handle more, moved.1.Stays scene.cursor := by
  intro start scene place
  have begins : start.Stands rows 0 steps := ⟨rfl, rfl⟩
  have stands := begins.after handle moves
  have known := Tokens.getElem?_append found (tokenSteps moves)
  rw [Nat.zero_add] at stands
  have tells := stands.tells known now
  refine ⟨?_, begins.seen handle moves, _, tells, fun live => ?_, fun error refused => ?_⟩
  · have read : scene.cursor.scan = reading rows place := stands.cursor ▸ scan_passed rows place
    exact congrArg (fun outcome => (Answer.scanned outcome, scene)) read
  · rw [stands.advance live]
    exact ⟨rfl, scan_passed rows (place + 1)⟩
  · refine ⟨Scene.advance_refused refused, fun more passed => ?_⟩
    exact stands.stays known (tells.failed.mp ⟨error, refused⟩) passed

/-- The token is a clone, and the one it was cloned from is cancelled while the cursor is on the first of two rows. -/
theorem moves_inOrder_cancelled :
    let rows : List Row := [[.integer 1], [.integer 2]]
    let steps : List (Int × TokenStep) := [(0, .create (some 10) false), (0, .clone 0)]
    let handle : Handle := ⟨0, some 10⟩
    let start : Scene := ⟨.ofRows rows, Tokens.empty.after steps⟩
    let scene := start.after handle [(1, .advance), (3, .token (.cancel 0))]
    (Tokens.empty.after steps).handles[1]? = some handle ∧
      scene.move handle 4 .scan = (.scanned (.ok [.integer 1]), scene) ∧
      scene.move handle 4 .advance = (.advanced (.error .cancelled), scene) ∧
      ∀ more : List (Int × Move), (∀ timed ∈ more, 4 ≤ timed.1) → (scene.after handle more).cursor = scene.cursor := by
  intro rows steps handle start scene
  have cancelled : Tokens.Cancelled (Tokens.empty.history (steps ++ [(3, .cancel 0)])) 1 := by
    refine ⟨0, .symm _ _ (.rel _ _ ⟨_, List.mem_of_getElem? (i := 1) rfl, rfl, rfl⟩), Tokens.empty.history steps,
      ⟨3, .cancel 0, .ok .done⟩, List.prefix_rfl, .inl ⟨rfl, ?_⟩⟩
    exact ⟨_, List.mem_cons_self, rfl⟩
  obtain ⟨read, -, outcome, tells, -, refused⟩ :=
    moves_inOrder rows steps 1 handle rfl [(1, .advance), (3, .token (.cancel 0))] 4
  obtain ⟨answered, stays⟩ := refused .cancelled (tells.cancelled.mpr cancelled)
  exact ⟨rfl, read, answered, fun more later => (stays more later).1⟩

end Cursor
end EntityStore
