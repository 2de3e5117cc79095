import Mathlib.Logic.Equiv.List
import CatalystSvm.PipelineBatches
import CatalystSvm.ProofVerifier
import CatalystSvm.SpendingLimits

/-!
# The pipeline over SP1

The services of the benchmark's pipeline are the prover of `crates/sp1-prover` and the
verifier of `crates/sp1-verifier`. Over a dependable SP1 a stream whose senders can pay
is recorded, proved and verified up to its end, unless it holds an unknown opcode: then
some batch ends the run with the prover's error, wherever the policy puts the cuts.
-/

namespace CatalystSvm.ServedPipeline

open CatalystSvm.CommonTypes CatalystSvm.CommonMerkle CatalystSvm.MachineArithmetic
open CatalystSvm.BatchPolicy CatalystSvm.CommonMetrics CatalystSvm.IssuedIds
open CatalystSvm.ExecutionEngine CatalystSvm.ProverInputs CatalystSvm.ProvabilityBoundary
open CatalystSvm.SpendingLimits
open CatalystSvm.PipelineEngine CatalystSvm.PipelineRuns CatalystSvm.PipelineBatches
open CatalystSvm.ProofVerifier (Sp1Sdk HeaderMatches)
open CatalystSvm.GuestProgram (Stdin)
open CatalystSvm.Library.Segments

set_option autoImplicit false

/-! ## The prover and the verifier of the benchmark -/

/-- The SDK of the verifier, and the prover of `crates/sp1-prover`: key setup, proving
and `bincode::serialize`. -/
structure Sp1 where
  sdk : Sp1Sdk
  prove : Stdin → Except String (List UInt8)

section Services

variable {World : Type}

/-- The services of the pipeline are `Sp1Prover` and `Sp1Verifier` on some stopwatch. A
`verify` that panics is not constrained. -/
structure ServedBy (setup : Setup World) (sp1 : Sp1) : Prop where
  prove : ∀ trace transactions world, ∃ provingTimeMs generatedAt,
    (setup.prove trace transactions world).1 =
      ProverInputs.prove setup.hashBytes sp1.prove provingTimeMs generatedAt trace transactions
  verify : ∀ proof trace world, ∃ verificationTimeMs, ∀ result,
    ProofVerifier.verify sp1.sdk verificationTimeMs proof trace = some result →
      (setup.verify proof trace world).1 = result

/-- SP1 does what it is for: there is a proof for every run of the guest that commits,
which verifies and opens to the committed values, and none for a guest that panics. -/
structure Dependable (hashBytes : HashBytes) (mode : OverflowMode) (sp1 : Sp1) : Prop where
  proves : ∀ stdin committed, GuestProgram.main hashBytes mode stdin = some committed →
    ∃ proofBytes sp1Proof key, sp1.prove stdin = .ok proofBytes ∧
      sp1.sdk.deserialize proofBytes = .ok sp1Proof ∧ sp1.sdk.setup = .ok key ∧
      sp1.sdk.verify sp1Proof key = .ok () ∧
      sp1.sdk.publicValues sp1Proof = sp1.sdk.commit committed
  refuses : ∀ stdin, GuestProgram.main hashBytes mode stdin = none →
    ∃ reason, sp1.prove stdin = .error reason
  reads : ∀ inputs, sp1.sdk.read (sp1.sdk.commit inputs) = some inputs

variable {setup : Setup World} {sp1 : Sp1} {trace : ExecutionTrace}
variable {transactions : List Transaction} {guestMode : OverflowMode}

theorem committed_accepted {hashBytes : HashBytes} {mode : OverflowMode}
    (dependable : Dependable hashBytes mode sp1)
    (provable : ∃ committed, GuestProgram.main hashBytes mode (proveStdin trace transactions) =
      some committed) :
    ∃ proofBytes, sp1.prove (proveStdin trace transactions) = .ok proofBytes ∧
      ∀ proof sp1Ms, proof.proofData = proofBytes →
        ProofVerifier.Accepts sp1.sdk sp1Ms proof trace := by
  obtain ⟨committed, ran⟩ := provable
  obtain ⟨proofBytes, sp1Proof, key, proves, decoded, keyed, checked, opened⟩ :=
    dependable.proves _ committed ran
  -- The guest commits to the header of the trace that it was given.
  obtain ⟨_, _, _, _, _, _, _, _, _, _, claimed⟩ :=
    (GuestProgram.main_commits_iff _ _ _ _).mp ran
  have header : HeaderMatches committed trace := by
    rw [claimed]
    exact ⟨rfl, rfl, rfl, rfl⟩
  refine ⟨proofBytes, proves, ?_⟩
  intro proof sp1Ms carried
  rw [← carried] at decoded
  exact (ProofVerifier.accepts_iff sp1.sdk sp1Ms proof trace).mpr
    ⟨committed, ⟨sp1Proof, key, decoded, keyed, checked,
      (congrArg sp1.sdk.read opened).trans (dependable.reads committed)⟩, header⟩

theorem served_accepts (served : ServedBy setup sp1)
    (dependable : Dependable setup.hashBytes guestMode sp1)
    (entries : trace.entries.isEmpty = false)
    (provable : ∃ committed, GuestProgram.main setup.hashBytes guestMode
      (proveStdin trace transactions) = some committed) (world : World) :
    ∃ proof verification proved verified,
      setup.prove trace transactions world = (.ok proof, proved) ∧
      setup.verify proof trace proved = (.ok verification, verified) ∧
      verification.isValid = true := by
  obtain ⟨proofBytes, proves, accepted⟩ := committed_accepted dependable provable
  obtain ⟨provingTimeMs, generatedAt, returned⟩ := served.prove trace transactions world
  rw [ProverInputs.prove, proveWithTransactions, entries] at returned
  change sp1.prove (guestStdin trace (proveArguments trace transactions).1
    (proveArguments trace transactions).2) = _ at proves
  simp only [Bool.false_eq_true, if_false, proves] at returned
  obtain ⟨proof, found, carried⟩ : ∃ proof,
      (setup.prove trace transactions world).1 = .ok proof ∧ proof.proofData = proofBytes :=
    ⟨_, returned, rfl⟩
  obtain ⟨verificationTimeMs, answers⟩ :=
    served.verify proof trace (setup.prove trace transactions world).2
  obtain ⟨verification, verifies, valid⟩ := accepted proof verificationTimeMs carried
  exact ⟨proof, verification, _, _, Prod.ext found rfl,
    Prod.ext (answers _ verifies) rfl, valid⟩

theorem proved_accepted {hashBytes : HashBytes} {mode : OverflowMode}
    (dependable : Dependable hashBytes mode sp1) {provingTimeMs generatedAt : UInt64}
    {proof : Proof} (proved : ProverInputs.prove hashBytes sp1.prove provingTimeMs generatedAt
      trace transactions = .ok proof) (sp1Ms : UInt64) :
    ProofVerifier.Accepts sp1.sdk sp1Ms proof trace := by
  rw [ProverInputs.prove, proveWithTransactions] at proved
  split at proved
  · cases proved
  · cases outcome : sp1.prove (proveStdin trace transactions) with
    | error reason =>
        have failed : sp1.prove (guestStdin trace (proveArguments trace transactions).1
            (proveArguments trace transactions).2) = .error reason := outcome
        simp only [failed, reduceCtorEq] at proved
    | ok proofBytes =>
        have made : sp1.prove (guestStdin trace (proveArguments trace transactions).1
            (proveArguments trace transactions).2) = .ok proofBytes := outcome
        simp only [made] at proved
        cases proved
        cases ran : GuestProgram.main hashBytes mode (proveStdin trace transactions) with
        | none =>
            obtain ⟨reason, refuses⟩ := dependable.refuses _ ran
            rw [outcome] at refuses
            cases refuses
        | some committed =>
            obtain ⟨otherBytes, proves, accepted⟩ := committed_accepted dependable ⟨committed, ran⟩
            cases outcome.symm.trans proves
            exact accepted _ sp1Ms rfl

theorem served_refuses (served : ServedBy setup sp1)
    (dependable : Dependable setup.hashBytes guestMode sp1)
    (entries : trace.entries.isEmpty = false)
    (unprovable : ¬∃ committed, GuestProgram.main setup.hashBytes guestMode
      (proveStdin trace transactions) = some committed) (world : World) :
    ∃ reason refused, setup.prove trace transactions world = (.error (.internal reason), refused) := by
  have panics : GuestProgram.main setup.hashBytes guestMode (proveStdin trace transactions) =
      none := by
    rw [Option.eq_none_iff_forall_ne_some]
    intro committed ran
    exact unprovable ⟨committed, ran⟩
  obtain ⟨reason, refuses⟩ := dependable.refuses _ panics
  obtain ⟨provingTimeMs, generatedAt, returned⟩ := served.prove trace transactions world
  rw [ProverInputs.prove, proveWithTransactions, entries] at returned
  change sp1.prove (guestStdin trace (proveArguments trace transactions).1
    (proveArguments trace transactions).2) = _ at refuses
  simp only [Bool.false_eq_true, if_false, refuses] at returned
  exact ⟨reason, _, Prod.ext returned rfl⟩

end Services

/-! ## One batch -/

def refusal (reason : String) : ExecError :=
  .batchFailed ("prove failed: " ++ (ProveError.internal reason).text)

/-- The ingested stream, of which the sealed part is proved and verified. -/
structure Progress {Policy World : Type} (setup : Setup World) (ingested : List Transaction)
    (segments : List (List Transaction)) (rest : List Transaction) (engine : Engine Policy) :
    Prop where
  part : Partitioned setup ingested segments rest engine
  executor : engine.executor = .new 200000
  known : ∀ tx ∈ segments.flatten, unknownOpcode tx = false
  verified : ∀ entry ∈ engine.recorded, entry.metrics.verificationPassed = true

inductive Ends {Policy World : Type} (stream : List Transaction)
    (Good : Engine Policy → Prop) : Option (Outcome Policy World) → Prop where
  | ok {machine : Machine Policy World} (good : Good machine.engine) :
      Ends stream Good (some (.ok (), machine))
  | refused {machine : Machine Policy World} (reason : String)
      (unknown : ∃ tx ∈ stream, unknownOpcode tx = true) :
      Ends stream Good (some (.error (refusal reason), machine))

theorem ends_weaken {Policy World : Type} {part stream : List Transaction}
    {Good Better : Engine Policy → Prop} {result : Option (Outcome Policy World)}
    (inside : part ⊆ stream) (better : ∀ engine, Good engine → Better engine)
    (ends : Ends part Good result) : Ends stream Better result := by
  cases ends with
  | ok good => exact .ok (better _ good)
  | refused reason unknown =>
      obtain ⟨tx, member, divergent⟩ := unknown
      exact .refused reason ⟨tx, inside member, divergent⟩

section Batches

variable {Policy World : Type} [PolicyEngine Policy] [Clock World] {setup : Setup World}
variable {sp1 : Sp1} {machine : Machine Policy World} {stream rest : List Transaction}
variable {segments : List (List Transaction)} {guestMode : OverflowMode}

theorem seal_refused {counter : UInt64} {trace : ExecutionTrace} {reason : String} {refused : World}
    (filled : machine.engine.pending ≠ []) (executed : Executes setup machine counter trace)
    (refuses : setup.prove trace machine.engine.pending (Clock.nowMs machine.world).2 =
      (.error (.internal reason), refused)) :
    sealAndProcess setup machine =
      some (.error (refusal reason), ⟨drain machine.engine counter, refused⟩) := by
  obtain ⟨counted, traced⟩ := executed
  have busy : (machine.engine.priorityLane ++ machine.engine.queue).isEmpty = false := by
    simpa [Engine.pending] using filled
  simp only [Engine.pending, nextBatch] at traced refuses
  simp only [sealAndProcess, busy, Bool.false_eq_true, if_false, bind, counted, Option.bind_some,
    traced, proveAndVerify, refuses, refusal]
  rfl

theorem seal_progress (served : ServedBy setup sp1)
    (dependable : Dependable setup.hashBytes guestMode sp1) (payable : Payable stream)
    (filled : rest ≠ []) (progress : Progress setup stream segments rest machine.engine) :
    Ends stream (Progress setup stream (segments ++ [rest]) []) (sealAndProcess setup machine) := by
  have part := progress.part
  have pending := partitioned_pending part
  have busy : machine.engine.pending ≠ [] := by
    rw [pending, Ne, priority_first_eq_nil_iff]
    exact filled
  have restPayable : Payable rest := by
    apply @payable_part segments.flatten rest []
    rw [List.append_nil, ← part.stream]
    exact payable
  have batchPayable : Payable machine.engine.pending := by
    rw [pending]
    exact payable_perm (priority_first_perm rest) restPayable
  -- The counter is the number of segments, far from its end.
  have room : segments.length + 1 < 2 ^ 64 := by
    have fewer := segments_le_items part.filled
    have one := List.length_pos_iff.mpr filled
    have short := payable.short
    rw [part.stream, List.length_append] at short
    omega
  obtain ⟨counter, counted⟩ : ∃ counter,
      addU64 setup.mode machine.engine.batchCounter 1 = some counter := by
    rw [part.counter]
    refine ⟨_, add_u64_exact _ _ _ ?_⟩
    rw [UInt64.toNat_ofNat', Nat.mod_eq_of_lt (by omega)]
    exact room
  obtain ⟨trace, traced⟩ := payable_executes batchPayable setup.hashBytes setup.mode
    (nextBatch machine counter)
  have executed : Executes setup machine counter trace := by
    refine ⟨counted, ?_⟩
    rw [progress.executor]
    exact traced
  obtain ⟨final, outcomes, ledger⟩ := ledger_run_of_executed traced
  have entries : trace.entries.isEmpty = false := by
    rw [List.isEmpty_eq_false_iff, ← List.length_pos_iff, ledger.entryCount, List.length_pos_iff]
    exact busy
  have listed (tx : Transaction) : tx ∈ machine.engine.pending ↔ tx ∈ rest := by
    rw [pending, (priority_first_perm rest).mem_iff]
  have provable := payable_provable_iff batchPayable busy traced guestMode
  simp only [listed] at provable
  by_cases known : ∀ tx ∈ rest, unknownOpcode tx = false
  · obtain ⟨proof, verification, proved, verified, proves, verifies, valid⟩ :=
      served_accepts served dependable entries (provable.mpr known) (Clock.nowMs machine.world).2
    rw [seal_recorded busy executed ⟨proves, verifies⟩]
    apply Ends.ok
    constructor
    case part => exact record_partitioned part busy executed
    case executor => exact progress.executor
    case known =>
      intro tx member
      rw [List.flatten_append, List.mem_append] at member
      cases member with
      | inl earlier => exact progress.known tx earlier
      | inr new => exact known tx (by simpa using new)
    case verified =>
      intro entry member
      cases List.mem_append.mp member with
      | inl earlier => exact progress.verified entry earlier
      | inr new =>
          rw [List.mem_singleton.mp new]
          exact valid
  · obtain ⟨reason, refused, refuses⟩ := served_refuses served dependable entries
      (fun committed => known (provable.mp committed)) (Clock.nowMs machine.world).2
    rw [seal_refused busy executed refuses]
    apply Ends.refused
    simp only [not_forall, Bool.not_eq_false] at known
    obtain ⟨tx, member, unknown⟩ := known
    refine ⟨tx, ?_, unknown⟩
    rw [part.stream]
    exact List.mem_append_right _ member

/-! ## The stream -/

def Ingested (setup : Setup World) (stream : List Transaction) (engine : Engine Policy) : Prop :=
  ∃ segments rest, Progress setup stream segments rest engine

def Recorded (setup : Setup World) (stream : List Transaction) (engine : Engine Policy) : Prop :=
  ∃ segments, Progress setup stream segments [] engine

omit [PolicyEngine Policy] [Clock World] in
theorem new_ingested (setup : Setup World) (policy : Policy) :
    Ingested setup [] (Engine.new policy (.new 200000)) := by
  refine ⟨[], [], new_partitioned setup policy _, rfl, ?_, ?_⟩
  · intro tx member
    cases member
  · intro entry member
    cases member

theorem ingest_ends (served : ServedBy setup sp1)
    (dependable : Dependable setup.hashBytes guestMode sp1) {tx : Transaction}
    (payable : Payable (stream ++ [tx])) (ingested : Ingested setup stream machine.engine) :
    Ends (stream ++ [tx]) (Ingested setup (stream ++ [tx]))
      (perform setup (.ingest tx) machine) := by
  obtain ⟨segments, rest, progress⟩ := ingested
  have queued : Progress setup (stream ++ [tx]) segments (rest ++ [tx])
      (enqueue tx machine).engine := by
    have part := enqueue_partitioned tx progress.part
    constructor
    case part => exact part
    case executor => rw [enqueue_engine]; exact progress.executor
    case known => exact progress.known
    case verified => rw [enqueue_engine]; exact progress.verified
  rw [perform_eq]
  cases decided : decision (enqueue tx machine).engine
      (Clock.nowMs (enqueue tx machine).world).1 with
  | false =>
      simp only [sealPoint, decided, Bool.false_eq_true, if_false]
      exact .ok ⟨segments, _, queued⟩
  | true =>
      have seals : Ends (stream ++ [tx])
          (Progress setup (stream ++ [tx]) (segments ++ [rest ++ [tx]]) [])
          (sealAndProcess setup ⟨(enqueue tx machine).engine,
            (Clock.nowMs (enqueue tx machine).world).2⟩) :=
        seal_progress served dependable payable (by simp) queued
      simp only [sealPoint, decided, if_true]
      apply ends_weaken (List.Subset.refl _) _ seals
      intro engine good
      exact ⟨_, [], good⟩

theorem ingest_all_ends (served : ServedBy setup sp1)
    (dependable : Dependable setup.hashBytes guestMode sp1) {txs : List Transaction}
    (payable : Payable (stream ++ txs)) (ingested : Ingested setup stream machine.engine) :
    Ends (stream ++ txs) (Ingested setup (stream ++ txs)) (ingestAll setup txs machine) := by
  induction txs generalizing stream machine with
  | nil =>
      rw [List.append_nil]
      exact .ok ingested
  | cons tx rest ih =>
      rw [List.append_cons] at payable ⊢
      have early : Payable (stream ++ [tx]) := @payable_part [] (stream ++ [tx]) rest payable
      have first := ingest_ends served dependable early ingested
      rw [perform] at first
      generalize called : ingest setup tx machine = result at first
      rw [ingestAll, called]
      cases first with
      | ok good => exact ih payable good
      | refused reason unknown =>
          apply ends_weaken (List.subset_append_left _ _) (fun _ good => good)
          exact .refused reason unknown

theorem flush_ends (served : ServedBy setup sp1)
    (dependable : Dependable setup.hashBytes guestMode sp1) (payable : Payable stream)
    (ingested : Ingested setup stream machine.engine) :
    Ends stream (Recorded setup stream) (perform setup .flush machine) := by
  obtain ⟨segments, rest, progress⟩ := ingested
  have pending := partitioned_pending progress.part
  rw [perform_eq]
  simp only [sealPoint, pending, priority_first_eq_nil_iff]
  by_cases empty : rest = []
  · rw [if_pos empty]
    rw [empty] at progress
    exact .ok ⟨segments, progress⟩
  · rw [if_neg empty]
    apply ends_weaken (List.Subset.refl _) _
      (seal_progress served dependable payable empty progress)
    intro engine good
    exact ⟨_, good⟩

end Batches

/-! ## An SP1 that replays -/

section Samples

instance encodableChar : Encodable Char :=
  Encodable.ofLeftInverse Char.toNat Char.ofNat Char.ofNat_toNat

instance encodableString : Encodable String :=
  Encodable.ofLeftInverse String.toList String.ofList fun _ => String.ofList_toList

instance encodableU64 : Encodable UInt64 :=
  Encodable.ofLeftInverse UInt64.toNat UInt64.ofNat fun _ => UInt64.ofNat_toNat

instance encodablePublicInputs : Encodable GuestProgram.PublicInputs :=
  Encodable.ofLeftInverse
    (fun inputs => (inputs.batchId, inputs.stateRootPre, inputs.stateRootPost, inputs.traceHash,
      inputs.totalCompute, inputs.txCount))
    (fun parts => ⟨parts.1, parts.2.1, parts.2.2.1, parts.2.2.2.1, parts.2.2.2.2.1,
      parts.2.2.2.2.2⟩) fun _ => rfl

/-- Runs the guest and numbers what it commits: the bytes of a proof are as many ones, which
is enough to verify and to open it. -/
def replaySp1 (hashBytes : HashBytes) (mode : OverflowMode) : Sp1 where
  prove stdin :=
    match GuestProgram.main hashBytes mode stdin with
    | some committed => .ok (List.replicate (Encodable.encode committed) 1)
    | none => .error "guest panicked"
  sdk := {
    Sp1Proof := GuestProgram.PublicInputs
    PublicValues := GuestProgram.PublicInputs
    VerifyingKey := Unit
    deserialize := fun proofBytes =>
      match Encodable.decode proofBytes.length with
      | some committed => .ok committed
      | none => .error "invalid length"
    setup := .ok ()
    verify := fun _ _ => .ok ()
    publicValues := id
    read := some
    commit := id }

theorem replay_sp1_dependable (hashBytes : HashBytes) (mode : OverflowMode) :
    Dependable hashBytes mode (replaySp1 hashBytes mode) where
  proves stdin committed ran := by
    refine ⟨List.replicate (Encodable.encode committed) 1, committed, (), ?_, ?_, rfl, rfl, rfl⟩
    · simp only [replaySp1, ran]
    · simp only [replaySp1, List.length_replicate, Encodable.encodek]
  refuses stdin panics := by
    refine ⟨"guest panicked", ?_⟩
    simp only [replaySp1, panics]
  reads inputs := rfl

end Samples

end CatalystSvm.ServedPipeline
