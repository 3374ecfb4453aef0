import StreamScalar.Host.RunningSum
import StreamScalar.Proofs.Checkpoint.Origin
import StreamScalar.Proofs.Codec.RoundTrip
import StreamScalar.Proofs.Function.Checks

/-!
# Checkpoints of the summing function

The name and the declared type of a summing function are fixed by its validation and the sum is all
that it restores, so it is restorable where all contexts have one namespace:
`Origin.restorable_runningSum`.
-/

namespace StreamScalar

namespace RunningSum

theorem execute_next (f : RunningSum) (data : Row) :
    ∃ sum, (f.execute data).next = { f with sum } := by
  obtain ⟨displayName, declared, sum⟩ := f
  cases declared with
  | none => exact ⟨sum, rfl⟩
  | some declared =>
    simp only [execute]
    cases numericArgument displayName data 0 declared with
    | error e => exact ⟨sum, rfl⟩
    | ok x => exact ⟨_, rfl⟩

theorem restore_next (f : RunningSum) (s : Snapshot) :
    ∃ sum, (f.restore s).next = { f with sum } := by
  rw [restore]
  cases s.decode 1 Codec.sum with
  | error e => exact ⟨f.sum, rfl⟩
  | ok sum => exact ⟨sum, rfl⟩

theorem restore_encode (f : RunningSum) (sum : Sum) :
    (f.restore (.encode 1 Codec.sum sum)).answer = .ok () ∧
      (f.restore (.encode 1 Codec.sum sum)).next = { f with sum } := by
  have hlength : (Codec.sum.encode sum).length < 2 ^ 64 := by
    show (Codec.littleEndian 8 _ ++ Codec.littleEndian 8 _).length < 2 ^ 64
    rw [List.length_append, Codec.littleEndian_length, Codec.littleEndian_length]
    decide
  have hread : (Snapshot.encode 1 Codec.sum sum).decode 1 Codec.sum = .ok sum := by
    rw [Snapshot.encode, Snapshot.decode, if_pos rfl,
      Codec.StateLayout.sum.faithful.decodeFirst_encode hlength]
    rfl
  rw [restore, hread]
  exact ⟨rfl, rfl⟩

end RunningSum

instance : LawfulMath HostFunction :=
  ⟨fun _ _ _ => rfl, fun _ _ => rfl, fun _ => rfl, fun _ => rfl, fun _ => rfl, fun _ _ => rfl⟩

namespace Origin

variable {contexts : AppContext → Prop} {origin : Origin HostFunction}

theorem Instance.exists_of_runningSum (horigin : origin.function = .runningSum {}) {f : HostFunction}
    (h : origin.Instance contexts f) :
    ∃ ctx sum, contexts ctx ∧
      f = .runningSum ⟨displayName ctx "runningSum", origin.types.head?, sum⟩ := by
  -- only a validation writes the name and the type, the other calls change nothing but the sum
  induction h with
  | @validate arguments ctx htypes hctx hanswer =>
    rw [horigin] at hanswer ⊢
    refine ⟨ctx, {}, hctx, ?_⟩
    show HostFunction.runningSum (RunningSum.validate {} arguments ctx).next = _
    replace hanswer : (RunningSum.validate {} arguments ctx).answer = .ok () := hanswer
    rw [RunningSum.validate] at hanswer ⊢
    cases hsignature : checkSignature (displayName ctx "runningSum") arguments
        [AttributeType.numeric] with
    | error e =>
      rw [hsignature] at hanswer
      cases hanswer
    | ok types =>
      obtain ⟨rfl, -⟩ := checkSignature_eq_ok_iff.mp hsignature
      rw [← htypes]
  | start _ ih =>
    obtain ⟨ctx, sum, hctx, rfl⟩ := ih
    exact ⟨ctx, sum, hctx, rfl⟩
  | stop _ ih =>
    obtain ⟨ctx, sum, hctx, rfl⟩ := ih
    exact ⟨ctx, sum, hctx, rfl⟩
  | execute data _ ih =>
    obtain ⟨ctx, sum, hctx, rfl⟩ := ih
    obtain ⟨sum', hnext⟩ := RunningSum.execute_next _ data
    exact ⟨ctx, sum', hctx, congrArg HostFunction.runningSum hnext⟩
  | restore s _ ih =>
    obtain ⟨ctx, sum, hctx, rfl⟩ := ih
    obtain ⟨sum', hnext⟩ := RunningSum.restore_next _ s
    exact ⟨ctx, sum', hctx, congrArg HostFunction.runningSum hnext⟩

theorem restorable_runningSum (horigin : origin.function = .runningSum {})
    (hcontexts : ∀ ctx ctx', contexts ctx → contexts ctx' → ctx.config.ns = ctx'.config.ns) :
    origin.Restorable contexts := by
  intro f g s hf hg hs
  obtain ⟨ctx, sum, hctx, rfl⟩ := hf.exists_of_runningSum horigin
  obtain ⟨ctx', sum', hctx', rfl⟩ := hg.exists_of_runningSum horigin
  have hsnapshot : s = .encode 1 Codec.sum sum := (Except.ok.inj hs).symm
  obtain ⟨hanswer, hnext⟩ := RunningSum.restore_encode
    ⟨displayName ctx' "runningSum", origin.types.head?, sum'⟩ sum
  rw [hsnapshot]
  refine ⟨hanswer, (congrArg HostFunction.runningSum hnext).trans ?_⟩
  rw [displayName_eq_of_ns (hcontexts ctx' ctx hctx' hctx)]

end Origin

end StreamScalar
