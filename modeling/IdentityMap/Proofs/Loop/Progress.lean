import IdentityMap.Proofs.Loop.Standing

/-!
# Progress of a worker

Every turn uses up some of the stream at hand or of the way to the next attempt.  Only a turn
that asks for a watch can add to what is left, so a worker comes either to the next attempt or to
its end, unless a stream that is still open has nothing to give.
-/

namespace IdentityMap.Loop

variable {setup : Setup} {loop next : Loop} {worker : Worker}

def cost (loop : Loop) : Nat :=
  loop.worker.elim 0 fun worker => stageCost worker.stage

theorem cost_le_budget (loop : Loop) : loop.cost ≤ loop.budget := by
  unfold cost budget
  omega

variable [Dialect]

theorem cost_lt_of_turn (hworker : loop.worker = some worker)
    (hattempt : worker.stage = .deciding → loop.running = false) (h : Turn setup loop worker next) :
    next.cost < loop.cost := by
  have hcost : loop.cost = stageCost worker.stage := by simp [cost, hworker]
  rw [hcost]
  cases h with
  | halt hstage _ => simp [cost, hstage, stageCost]
  | giveUp hstage hrunning _ _ | retry hstage hrunning _ _ _ | opened hstage hrunning _ =>
      rw [hattempt hstage] at hrunning
      cases hrunning
  | @ask stream delivered hstage =>
      have hqueue : ∀ stop : Prop, [Decidable stop] →
          (if stop then stream.countDown.close else stream.countDown).channel.queue =
            stream.channel.queue := by
        intro stop _
        split <;> rfl
      simp [cost, hstage, stageCost, hqueue]
  | receive hstage hqueue =>
      simp only [cost, hstage, stageCost, hqueue, Option.elim_some, List.length_cons]
      omega
  | leave hstage _ _ _ => simp [cost, hstage, stageCost]
  | reopen hstage _ _ _ _ =>
      simp only [cost, hstage, stageCost, Option.elim_some]
      omega
  | wake hstage => simp [cost, hstage, stageCost]

/-- A worker waits for nothing but an event of a stream that is still open. -/
theorem exists_step (hworker : loop.worker = some worker) (hlive : worker.stage.isLive = true)
    (hclosed : ∀ stream, loop.stream? = some stream → stream.channel.closed = true) :
    ∃ next, loop.step setup = some next := by
  cases hstage : worker.stage with
  | deciding => cases hrunning : loop.running <;> simp [step, hworker, hstage, hrunning]
  | asking stream delivered => simp [step, hworker, hstage]
  | waiting stream delivered =>
      have hend := hclosed stream (by simp [stream?, hworker, hstage, Stage.stream?])
      cases hqueue : stream.channel.queue <;>
        simp [step, hworker, hstage, Channel.next, hqueue, hend]
  | pausing => simp [step, hworker, hstage]
  | ended | aborted _ => simp [hstage, Stage.isLive] at hlive

/-- Enough steps lead to the condition or to a worker that cannot go on, if up to then every
step keeps an invariant and costs something. -/
theorem advance_of_invariant (invariant : Loop → Prop) (condition : Loop → Bool)
    (hkept : ∀ loop next, invariant loop → condition loop = false →
      loop.step setup = some next → invariant next ∧ next.cost < loop.cost)
    {steps : Nat} (h : invariant loop) (hcost : loop.cost ≤ steps) :
    invariant (loop.advance setup condition steps) ∧
      (condition (loop.advance setup condition steps) = true ∨
        (loop.advance setup condition steps).step setup = none) := by
  -- On the steps that are left; with none left nothing can cost less than the loop at hand.
  induction steps generalizing loop with
  | zero =>
      refine ⟨h, ?_⟩
      rw [advance]
      cases hcondition : condition loop with
      | true => exact .inl rfl
      | false =>
          cases hstep : loop.step setup with
          | none => exact .inr rfl
          | some next =>
              obtain ⟨-, hlt⟩ := hkept loop next h hcondition hstep
              omega
  | succ steps ih =>
      cases hcondition : condition loop with
      | true => simp [advance, hcondition, h]
      | false =>
          cases hstep : loop.step setup with
          | none => simp [advance, hcondition, hstep, h]
          | some next =>
              obtain ⟨hnext, hlt⟩ := hkept loop next h hcondition hstep
              simp only [advance, hcondition, hstep, Bool.false_eq_true, if_false]
              exact ih hnext (by omega)

theorem settle_of_invariant (invariant : Loop → Prop)
    (hkept : ∀ loop next, invariant loop → loop.step setup = some next →
      invariant next ∧ next.cost < loop.cost) (h : invariant loop) :
    invariant (loop.settle setup) ∧ (loop.settle setup).step setup = none := by
  obtain ⟨hends, hstuck⟩ := advance_of_invariant invariant (fun _ => false)
    (fun loop next h _ => hkept loop next h) h loop.cost_le_budget
  exact ⟨hends, hstuck.resolve_left Bool.false_ne_true⟩

end IdentityMap.Loop
