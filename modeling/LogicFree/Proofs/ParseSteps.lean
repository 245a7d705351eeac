import LogicFree.Script.Parse

/-! A logic for the steps of reading. It says what holds of the value and of the cursor
whenever a step succeeds, and asks nothing of a step that finds a fault. -/

namespace LogicFree.Script.Parse

variable {source : List Char} {α β σ : Type} {cursor : Cursor source}

/-- Whenever a step succeeds from a cursor, its value and the new cursor have a property. -/
def Ensures (cursor : Cursor source) (step : Parse source α) (post : α → Cursor source → Prop) :
    Prop :=
  ∀ value next, step cursor = .ok (value, next) → post value next

theorem Ensures.mono {step : Parse source α} {first post : α → Cursor source → Prop}
    (ensured : Ensures cursor step first)
    (implies : ∀ value next, first value next → post value next) : Ensures cursor step post :=
  fun value next success => implies value next (ensured value next success)

theorem Ensures.of_forall {step : Parse source α} {post : α → Cursor source → Prop}
    (always : ∀ value next, post value next) : Ensures cursor step post :=
  fun value next _ => always value next

theorem Ensures.and {step : Parse source α} {first second : α → Cursor source → Prop}
    (left : Ensures cursor step first) (right : Ensures cursor step second) :
    Ensures cursor step fun value next => first value next ∧ second value next :=
  fun value next success => ⟨left value next success, right value next success⟩

@[simp] theorem ensures_true (step : Parse source α) : Ensures cursor step fun _ _ => True :=
  fun _ _ _ => trivial

@[simp] theorem ensures_pure (value : α) (post : α → Cursor source → Prop) :
    Ensures cursor (pure value) post ↔ post value cursor := by
  constructor
  · intro ensured
    exact ensured value cursor rfl
  · rintro holds _ _ ⟨⟩
    exact holds

@[simp] theorem ensures_bind (step : Parse source α) (next : α → Parse source β)
    (post : β → Cursor source → Prop) :
    Ensures cursor (step >>= next) post ↔
      Ensures cursor step fun value middle => Ensures middle (next value) post := by
  constructor
  · intro ensured value middle success result final further
    apply ensured result final
    show (step cursor >>= fun pair => next pair.1 pair.2) = _
    rw [success]
    exact further
  · intro ensured result final success
    change (step cursor >>= fun pair => next pair.1 pair.2) = _ at success
    cases reached : step cursor with
    | error fault =>
      rw [reached] at success
      cases success
    | ok pair =>
      rw [reached] at success
      exact ensured pair.1 pair.2 reached result final success

@[simp] theorem ensures_map (make : α → β) (step : Parse source α)
    (post : β → Cursor source → Prop) :
    Ensures cursor (make <$> step) post ↔
      Ensures cursor step fun value next => post (make value) next := by
  rw [map_eq_pure_bind, ensures_bind]
  simp only [ensures_pure]

@[simp] theorem ensures_get (post : Cursor source → Cursor source → Prop) :
    Ensures cursor get post ↔ post cursor cursor := ensures_pure cursor post

@[simp] theorem ensures_throw (fault : Fault) (post : α → Cursor source → Prop) :
    Ensures cursor (throw fault) post := nofun

@[simp] theorem ensures_ite (condition : Prop) [Decidable condition] (first second : Parse source α)
    (post : α → Cursor source → Prop) :
    Ensures cursor (if condition then first else second) post ↔
      if condition then Ensures cursor first post else Ensures cursor second post := by
  split <;> rfl

@[simp] theorem ensures_token (post : Token → Cursor source → Prop) :
    Ensures cursor token post ↔ post cursor.token cursor := by
  simp [token]

@[simp] theorem ensures_start (post : Nat → Cursor source → Prop) :
    Ensures cursor start post ↔ post cursor.here.pos cursor := by
  simp [start]

@[simp] theorem ensures_last (post : Nat → Cursor source → Prop) :
    Ensures cursor last post ↔ post cursor.last cursor := by
  simp [last]

@[simp] theorem ensures_spanFrom (start : Nat) (post : Span → Cursor source → Prop) :
    Ensures cursor (spanFrom start) post ↔ post ⟨start, cursor.last⟩ cursor := by
  simp [spanFrom]

@[simp] theorem ensures_unexpected (post : α → Cursor source → Prop) :
    Ensures cursor unexpected post := by
  simp [unexpected, failWith]

@[simp] theorem ensures_advance (post : Unit → Cursor source → Prop) :
    Ensures cursor advance post ↔ post () cursor.advance := by
  constructor
  · intro ensured
    exact ensured () cursor.advance rfl
  · rintro holds _ _ ⟨⟩
    exact holds

@[simp] theorem ensures_isMark (text : String) (post : Bool → Cursor source → Prop) :
    Ensures cursor (isMark text) post ↔ post (cursor.token == .mark text) cursor := by
  simp [isMark]

theorem ensures_eatMark (text : String) (post : Bool → Cursor source → Prop) :
    Ensures cursor (eatMark text) post ↔
      if cursor.token = .mark text then post true cursor.advance else post false cursor := by
  simp [eatMark]

/-- A step that is only tried keeps what it ensures where it succeeds. -/
theorem Ensures.attempt {step : Parse source α} {post : α → Cursor source → Prop}
    (ensured : Ensures cursor step post) :
    Ensures cursor (attempt step) fun found next => ∀ value ∈ found, post value next := by
  intro found next success
  unfold Parse.attempt at success
  split at success
  next value reached succeeded =>
    cases success
    rintro _ ⟨⟩
    exact ensured value next succeeded
  next =>
    cases success
    exact nofun

theorem Ensures.orElse {first second : Parse source α} {post : α → Cursor source → Prop}
    (left : Ensures cursor first post) (right : Ensures cursor second post) :
    Ensures cursor (orElse first second) post := by
  intro value next success
  unfold Parse.orElse at success
  split at success
  next result succeeded =>
    cases success
    exact left value next succeeded
  next =>
    split at success
    next result succeeded =>
      cases success
      exact right value next succeeded
    next => cases success

/-- A repeated step keeps what holds between two repetitions, and the last one, which
yields nothing, gives what holds in the end. -/
theorem Ensures.iterate (kept post : σ → Cursor source → Prop)
    {step : σ → Parse source (Option σ)}
    (each : ∀ state cursor, kept state cursor → Ensures cursor (step state) fun found next =>
      found.elim (post state next) (kept · next))
    (bound : Nat) (state : σ) (cursor : Cursor source) (opening : kept state cursor) :
    Ensures cursor (iterate step bound state) post := by
  induction bound generalizing state cursor with
  | zero =>
    rw [Parse.iterate]
    exact ensures_unexpected post
  | succ bound ih =>
    rw [Parse.iterate, ensures_bind]
    refine (each state cursor opening).mono fun found next holds => ?_
    cases found with
    | none => exact (ensures_pure ..).mpr holds
    | some following => exact ih following next holds

theorem Ensures.repeated (kept post : σ → Cursor source → Prop)
    {step : σ → Parse source (Option σ)} {state : σ} (opening : kept state cursor)
    (each : ∀ state cursor, kept state cursor → Ensures cursor (step state) fun found next =>
      found.elim (post state next) (kept · next)) :
    Ensures cursor (repeated step state) post := by
  rw [Parse.repeated, ensures_bind, ensures_get]
  exact Ensures.iterate kept post each _ state cursor opening

/-- What every repetition keeps of the state alone holds in the end. -/
theorem Ensures.repeated_keeps (kept : σ → Prop) {step : σ → Parse source (Option σ)} {state : σ}
    (opening : kept state)
    (each : ∀ state cursor, kept state →
      Ensures cursor (step state) fun found _ => ∀ further ∈ found, kept further) :
    Ensures cursor (Parse.repeated step state) fun final _ => kept final := by
  refine .repeated (fun state _ => kept state) _ opening ?_
  intro state current holds
  refine (each state current holds).mono fun found next further => ?_
  cases found with
  | none => exact holds
  | some following => exact further following rfl

end LogicFree.Script.Parse
