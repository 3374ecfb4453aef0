import StreamScalar.Proofs.Function.Math

/-!
# Events and checkpoints leave no trace

A call site of `log`, `round` or `sinh` is changed by its start and its stop and by nothing else
(`perform_next_of_ne`): neither a failed event nor an earlier result nor a foreign checkpoint reaches
a later answer. So calls of every other kind can be left out of a run, and those that stay are
answered as before.

* `isolated_run` : any such calls left out of any run.
-/

namespace StreamScalar

namespace MathFunction

open CallSite (Call Answer History)

/-- The elements that are marked. -/
def kept {α : Type} (marked : List (α × Bool)) : List α :=
  (marked.filter (·.2)).map (·.1)

section kept

variable {α : Type} (a : α) (marked : List (α × Bool))

theorem kept_cons_true : kept ((a, true) :: marked) = a :: kept marked := rfl

theorem kept_cons_false : kept ((a, false) :: marked) = kept marked := rfl

end kept

theorem perform_next_of_ne (site : CallSite MathFunction) {call : Call} (hstart : call ≠ .start)
    (hstop : call ≠ .stop) : (site.perform call).next = site := by
  obtain ⟨function, arguments, qualifiedName, state⟩ := site
  cases call with
  | start => exact absurd rfl hstart
  | stop => exact absurd rfl hstop
  | execute data => cases state <;> rfl
  | process event => cases state <;> rfl
  | serializeState => rfl
  | deserializeState snapshot => rfl

theorem perform_checkpoint (site : CallSite MathFunction) (call : Call) :
    (call = .serializeState → (site.perform call).answer = .captured (.ok .empty)) ∧
      ∀ snapshot, call = .deserializeState snapshot →
        (site.perform call).answer = .restored (.ok ()) := by
  constructor
  · rintro rfl
    rfl
  · rintro snapshot rfl
    rfl

variable {marked : List (Call × Bool)}

theorem run_kept (hdeleted : ∀ call, (call, false) ∈ marked → call ≠ .start ∧ call ≠ .stop)
    (site : CallSite MathFunction) :
    (site.run (kept marked)).answer =
        kept ((site.run (marked.map (·.1))).answer.zip (marked.map (·.2))) ∧
      (site.run (kept marked)).next = (site.run (marked.map (·.1))).next := by
  induction marked generalizing site with
  | nil => exact ⟨rfl, rfl⟩
  | cons first rest ih =>
    obtain ⟨call, keep⟩ := first
    have hrest : ∀ call, (call, false) ∈ rest → call ≠ .start ∧ call ≠ .stop :=
      fun call hmem => hdeleted call (List.mem_cons_of_mem _ hmem)
    obtain ⟨hanswer, hnext⟩ := ih hrest (site.perform call).next
    cases keep with
    | true =>
      rw [kept_cons_true]
      refine ⟨?_, hnext⟩
      show (call, (site.perform call).answer) :: _ = kept (((call, _), true) :: _)
      rw [kept_cons_true, hanswer]
      rfl
    | false =>
      -- the deleted call has left the site as it was, so the rest runs from the same site
      obtain ⟨hstart, hstop⟩ := hdeleted call List.mem_cons_self
      rw [perform_next_of_ne site hstart hstop] at hanswer hnext
      rw [kept_cons_false]
      simp only [List.map_cons, CallSite.run, List.zip_cons_cons,
        perform_next_of_ne site hstart hstop]
      rw [kept_cons_false]
      exact ⟨hanswer, hnext⟩

/-- **Every event is on its own.** Of a run of any calls on a call site of a math function, any may
be left out that are no start and no stop: the others are answered as before, and the call site ends
up the same. What is captured is empty, and every snapshot is accepted. -/
theorem isolated_run (site : CallSite MathFunction)
    (hdeleted : ∀ call, (call, false) ∈ marked → call ≠ .start ∧ call ≠ .stop) :
    (site.run (kept marked)).answer =
        kept ((site.run (marked.map (·.1))).answer.zip (marked.map (·.2))) ∧
      (site.run (kept marked)).next = (site.run (marked.map (·.1))).next ∧
      ∀ entry ∈ (site.run (marked.map (·.1))).answer,
        (entry.1 = .serializeState → entry.2 = .captured (.ok .empty)) ∧
          ∀ snapshot, entry.1 = .deserializeState snapshot → entry.2 = .restored (.ok ()) := by
  obtain ⟨hanswer, hnext⟩ := run_kept hdeleted site
  refine ⟨hanswer, hnext, ?_⟩
  exact CallSite.run_answers (P := fun _ => True)
    (Q := fun call answer => (call = .serializeState → answer = .captured (.ok .empty)) ∧
      ∀ snapshot, call = .deserializeState snapshot → answer = .restored (.ok ()))
    (fun _ _ _ => trivial) (fun site call _ => perform_checkpoint site call) trivial _

/-- A call site of `round` to which garbage is restored before and after it is started, and an event
of which the argument is missing. -/
theorem isolated_run_round :
    let site : CallSite MathFunction :=
      ⟨validated .round {} [.float], [.attributeAt 0 .float], "math:round", .validated⟩
    let marked : List (Call × Bool) :=
      [(.deserializeState ⟨7, [1, 2]⟩, false), (.start, true), (.execute [none], false),
        (.serializeState, false), (.deserializeState ⟨0, [255]⟩, false),
        (.execute [some (.float ⟨0x40200000⟩)], true)]
    (∀ call, (call, false) ∈ marked → call ≠ .start ∧ call ≠ .stop) ∧
      kept marked = [.start, .execute [some (.float ⟨0x40200000⟩)]] ∧
      (site.run (kept marked)).answer =
        kept ((site.run (marked.map (·.1))).answer.zip (marked.map (·.2))) := by
  intro site marked
  have hdeleted : ∀ call, (call, false) ∈ marked → call ≠ .start ∧ call ≠ .stop := by
    intro call hmem
    simp only [marked, List.mem_cons, Prod.mk.injEq] at hmem
    rcases hmem with ⟨rfl, -⟩ | ⟨-, h⟩ | ⟨rfl, -⟩ | ⟨rfl, -⟩ | ⟨rfl, -⟩ | ⟨-, h⟩ | h
    all_goals simp_all
  exact ⟨hdeleted, rfl, (isolated_run site hdeleted).1⟩

end MathFunction

end StreamScalar
