import TextQuery.Engine.Run

set_option autoImplicit false

namespace TextQuery

open Engine

theorem Run.ask_eq {σ α : Type} [Engine σ] (statement : Statement α) (world : World σ) :
    Run.ask statement world = ((Engine.answer statement world.engine).1,
      { world with engine := (Engine.answer statement world.engine).2 }) := rfl

theorem Run.bind_eq {σ α β : Type} (first : Run σ α) (next : α → Run σ β) (world : World σ) :
    (first >>= next) world = next (first world).1 (first world).2 := rfl

namespace Attempt

variable {σ α β : Type} {world after : World σ}

theorem run_bind_ok {first : Attempt σ α} {value : α} (next : α → Attempt σ β)
    (done : first.run world = (.ok value, after)) :
    (first >>= next).run world = (next value).run after := by
  change (ExceptT.bindCont next (first.run world).1) (first.run world).2 = _
  rw [done]
  rfl

theorem run_bind_error {first : Attempt σ α} {failure : Failure} (next : α → Attempt σ β)
    (failed : first.run world = (.error failure, after)) :
    (first >>= next).run world = (.error failure, after) := by
  change (ExceptT.bindCont next (first.run world).1) (first.run world).2 = _
  rw [failed]
  rfl

theorem run_map (attempt : Attempt σ α) (f : α → β) (world : World σ) :
    (attempt >>= fun value => pure (f value)).run world =
      ((attempt.run world).1.map f, (attempt.run world).2) := by
  cases ran : attempt.run world with
  | mk answer after =>
    cases answer with
    | ok value => exact run_bind_ok _ ran
    | error failure => exact run_bind_error _ ran

variable [Engine σ] (statement : Statement α)

theorem run_observe (world : World σ) :
    (observe statement).run world =
      (.ok (Engine.answer statement world.engine).1,
        { world with engine := (Engine.answer statement world.engine).2 }) := rfl

theorem run_ask (world : World σ) :
    (ask statement).run world =
      ((Engine.answer statement world.engine).1.mapError .engine,
        { world with engine := (Engine.answer statement world.engine).2 }) := by
  unfold ask
  simp only [ExceptT.run, ExceptT.mk, bind, StateT.bind, Run.ask_eq]
  cases (Engine.answer statement world.engine).1 <;> rfl

variable {statement} {result : Except Fault α} {engine : σ}

theorem run_ask_of (answered : Engine.answer statement world.engine = (result, engine)) :
    (ask statement).run world = (result.mapError .engine, { world with engine }) := by
  rw [run_ask, answered]

end Attempt

end TextQuery
