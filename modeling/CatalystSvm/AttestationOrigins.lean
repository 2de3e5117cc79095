import CatalystSvm.ProofPolling

/-!
# Where attested batches come from

The validator and the verifier node over a proof directory that nobody else
writes. Whatever the interleaving, and however torn the files are when they are
read, an attested batch is one that the validator sealed, executed and proved.
Each batch is proved at most once, so the proof a batch was given is the one that
its record and every attestation of it are copied from.
-/

namespace CatalystSvm.AttestationOrigins

open CatalystSvm.CommonTypes CatalystSvm.BatchPolicy CatalystSvm.ExecutionEngine
open CatalystSvm.ProverInputs CatalystSvm.ProofVerifier CatalystSvm.ProofAttestation
open CatalystSvm.ProofPolling CatalystSvm.Library.Runs CatalystSvm.Library.TaskLists
open CatalystSvm.ValidatorNode (Validator Event processedBatch proofRecord nextStage)
open CatalystSvm.ValidatorRuns (Sealing)
open CatalystSvm.Library.PathNames (Path Plain)

set_option autoImplicit false

def Executed {Policy : Type} (validator : Validator Policy) (task : ValidatorNode.Task)
    (trace : ExecutionTrace) : Prop :=
  ∃ startTs sealTs, validator.executor.executeWithTransactions validator.hashBytes validator.mode
    (processedBatch task startTs sealTs) task.transactions = some trace

/-- What a proof repeats of the trace it was made for. -/
structure ProofOf (trace : ExecutionTrace) (proof : Proof) : Prop where
  batchId : proof.batchId = trace.batchId
  traceHash : proof.commitment.traceHash = trace.traceHash
  stateRootPre : proof.commitment.stateRootPre = trace.stateRootPre
  stateRootPost : proof.commitment.stateRootPost = trace.stateRootPost
  totalCompute : proof.commitment.totalCompute = trace.totalCompute
  txCount : proof.commitment.txCount = trace.entries.length

theorem prove_proof_of {hashBytes : CommonMerkle.HashBytes}
    {sp1Prove : GuestProgram.Stdin → Except String (List UInt8)}
    {provingTimeMs generatedAt : UInt64} {trace : ExecutionTrace}
    {transactions : List Transaction} {proof : Proof}
    (proved : prove hashBytes sp1Prove provingTimeMs generatedAt trace transactions = .ok proof) :
    ProofOf trace proof := by
  unfold prove proveWithTransactions at proved
  split at proved
  · cases proved
  · split at proved
    · cases proved
    · cases proved
      constructor <;> rfl

/-- The proving task of a batch runs `Sp1Prover::prove` on its trace; the SP1 prover in
it may return any bytes. -/
def ProvesOwnTrace {Policy : Type} (validator : Validator Policy) (system : Exchange) :
    Action → Prop
  | .validator (.advance index (.prove (.returned (.ok proof)) _)) =>
      ∀ task trace, system.validator.tasks[index]? = some task → task.stage = .executed trace →
        ∃ sp1Prove provingTimeMs generatedAt, prove validator.hashBytes sp1Prove provingTimeMs
          generatedAt trace task.transactions = .ok proof
  | _ => True

/-- No part of an encoded proof decodes to anything but that proof: a `bincode` buffer that
ends early is an error. -/
def DecodesWhole (node : VerifierNode) (codec : Codec) : Prop :=
  ∀ proof count other,
    node.deserializeProof ((codec.serializeProof proof).take count) = .ok other → other = proof

/-! ## The proofs given out -/

/-- `given` says which proof each batch got, by the number of its task. -/
abbrev Given := Nat → Option Proof

def StageOrigin {Policy : Type} (validator : Validator Policy) (given : Option Proof)
    (task : ValidatorNode.Task) : Prop :=
  match task.stage with
  | .sealed => given = none
  | .executed trace => given = none ∧ Executed validator task trace
  | .proved _ proof _ => given = some proof
  | .proofWritten _ proof _ => given = some proof
  | .saved proof _ => given = some proof
  | .recorded => True
  | .failed _ => True
  | .panicked => True

structure ValidatorOrigins {Policy : Type} (validator : Validator Policy) (given : Given)
    (system : ValidatorNode.System) : Prop where
  made : ∀ index proof, given index = some proof → ∃ task trace,
    system.tasks[index]? = some task ∧ Executed validator task trace ∧ ProofOf trace proof
  stages : ∀ index task, system.tasks[index]? = some task →
    StageOrigin validator (given index) task
  records : ∀ record ∈ system.state.proofs, ∃ index proof task timestamp,
    given index = some proof ∧ system.tasks[index]? = some task ∧
      record = proofRecord task.batchId proof timestamp

/-- A part of the encoding of a proof whose batch has this file. -/
def PartOfGiven (node : VerifierNode) (codec : Codec) (given : Given) (path : Path)
    (bytes : List UInt8) : Prop :=
  ∃ index proof count, given index = some proof ∧ node.proofPath proof.batchId = path ∧
    bytes = (codec.serializeProof proof).take count

def ReadOrigin (node : VerifierNode) (codec : Codec) (given : Given)
    (task : VerifiedChain.Task) : Prop :=
  match task.stage with
  | .proofRead proofBytes => PartOfGiven node codec given (node.proofPath task.batchId) proofBytes
  | .filesRead proofBytes _ => PartOfGiven node codec given (node.proofPath task.batchId) proofBytes
  | .returned (.ok verified) => ∃ index proof, given index = some proof ∧
      verified.batchId = proof.batchId ∧ node.proofPath proof.batchId = node.proofPath task.batchId
  | _ => True

structure VerifierOrigins (node : VerifierNode) (codec : Codec) (given : Given)
    (system : VerifiedChain.System) : Prop where
  files : ∀ batchId bytes, system.disk (node.proofPath batchId) = .ok bytes →
    PartOfGiven node codec given (node.proofPath batchId) bytes
  readings : ∀ task ∈ system.tasks, ReadOrigin node codec given task
  verified : ∀ verified ∈ system.state.verifiedBatches, ∃ index proof readings,
    given index = some proof ∧ verified = attested node readings proof

def Extends (later given : Given) : Prop :=
  ∀ index proof, given index = some proof → later index = some proof

theorem part_of_given_extends {node : VerifierNode} {codec : Codec} {later given : Given}
    {path : Path} {bytes : List UInt8} (extended : Extends later given)
    (part : PartOfGiven node codec given path bytes) :
    PartOfGiven node codec later path bytes := by
  obtain ⟨index, proof, count, held, rest⟩ := part
  exact ⟨index, proof, count, extended index proof held, rest⟩

theorem read_origin_extends {node : VerifierNode} {codec : Codec} {later given : Given}
    {task : VerifiedChain.Task} (extended : Extends later given)
    (origin : ReadOrigin node codec given task) : ReadOrigin node codec later task := by
  rcases task with ⟨source, batchId, stage⟩
  cases stage with
  | started => trivial
  | proofRead proofBytes => exact part_of_given_extends extended origin
  | filesRead proofBytes traceBytes => exact part_of_given_extends extended origin
  | returned result =>
      cases result with
      | error reason => trivial
      | ok verified =>
          obtain ⟨index, proof, held, named⟩ := origin
          exact ⟨index, proof, extended index proof held, named⟩
  | done => trivial

theorem verifier_origins_extends {node : VerifierNode} {codec : Codec} {later given : Given}
    {system : VerifiedChain.System} (extended : Extends later given)
    (origins : VerifierOrigins node codec given system) :
    VerifierOrigins node codec later system where
  files := fun batchId bytes read => part_of_given_extends extended (origins.files _ _ read)
  readings := fun task member => read_origin_extends extended (origins.readings task member)
  verified := by
    intro verified member
    obtain ⟨index, proof, readings, held, copied⟩ := origins.verified verified member
    exact ⟨index, proof, readings, extended index proof held, copied⟩

/-! ## Steps of the verifier -/

section VerifierSteps

variable {node : VerifierNode} {codec : Codec} {given : Given} {system : VerifiedChain.System}

theorem start_keeps_origins {source : VerifiedChain.Source} {batchId : String}
    (origins : VerifierOrigins node codec given system) :
    VerifierOrigins node codec given (system.start source batchId) where
  files := origins.files
  readings := by
    intro task member
    rcases List.mem_append.mp member with old | new
    · exact origins.readings task old
    · rw [List.mem_singleton] at new
      subst new
      trivial
  verified := origins.verified

theorem set_stage_keeps_origins {index : Nat} {task : VerifiedChain.Task}
    {stage : VerifiedChain.Stage} (origins : VerifierOrigins node codec given system)
    (origin : ReadOrigin node codec given { task with stage := stage }) :
    VerifierOrigins node codec given (system.setStage index task stage) where
  files := origins.files
  readings := by
    intro other member
    rcases List.mem_or_eq_of_mem_set member with old | new
    · exact origins.readings other old
    · subst new
      exact origin
  verified := origins.verified

/-- Only `verified_batches` of the shared state is traced back. -/
theorem same_batches_keep_origins {state : VerifierState} {processed : List String}
    (same : state.verifiedBatches = system.state.verifiedBatches)
    (origins : VerifierOrigins node codec given system) :
    VerifierOrigins node codec given { system with state := state, processed := processed } where
  files := origins.files
  readings := origins.readings
  verified := by
    intro verified member
    rw [same] at member
    exact origins.verified verified member

theorem verify_bytes_origin {readings : Readings} {path : Path}
    {proofBytes traceBytes : List UInt8} {state after : VerifierState} {verified : VerifiedBatch}
    (decodes : DecodesWhole node codec) (part : PartOfGiven node codec given path proofBytes)
    (returned : verifyBytes node readings proofBytes traceBytes state = (after, .ok verified)) :
    ∃ index proof, given index = some proof ∧ node.proofPath proof.batchId = path ∧
      verified = attested node readings proof ∧ after = state.record verified := by
  obtain ⟨proof, trace, decoded, _, accepted⟩ := verify_bytes_ok_iff.mp returned
  obtain ⟨index, whole, count, held, named, cut⟩ := part
  rw [cut] at decoded
  have same := decodes whole count proof decoded
  subst same
  obtain ⟨_, copied, recorded⟩ := verify_proof_ok_iff.mp accepted
  subst copied
  exact ⟨index, proof, held, named, rfl, recorded⟩

theorem advance_keeps_origins {index : Nat} {task : VerifiedChain.Task} (readings : Readings)
    (decodes : DecodesWhole node codec) (found : system.tasks[index]? = some task)
    (origins : VerifierOrigins node codec given system) :
    VerifierOrigins node codec given (system.advance node index readings task) := by
  have origin := origins.readings task (List.mem_of_getElem? found)
  rcases task with ⟨source, batchId, stage⟩
  cases stage with
  | started =>
      simp only [VerifiedChain.System.advance]
      cases read : system.disk (node.proofPath batchId) with
      | error reason => exact set_stage_keeps_origins origins trivial
      | ok proofBytes => exact set_stage_keeps_origins origins (origins.files batchId _ read)
  | proofRead proofBytes =>
      simp only [VerifiedChain.System.advance]
      cases system.disk (node.tracePath batchId) with
      | error reason => exact set_stage_keeps_origins origins trivial
      | ok traceBytes => exact set_stage_keeps_origins origins origin
  | filesRead proofBytes traceBytes =>
      simp only [VerifiedChain.System.advance]
      cases returned : verifyBytes node readings proofBytes traceBytes system.state with
      | mk after result =>
          cases result with
          | error reason =>
              have batches := (verify_bytes_error returned).1
              have moved : VerifierOrigins node codec given (system.setStage index
                  ⟨source, batchId, .filesRead proofBytes traceBytes⟩
                  (.returned (.error reason))) := set_stage_keeps_origins origins trivial
              exact same_batches_keep_origins batches moved
          | ok verified =>
              obtain ⟨owner, proof, held, named, copied, recorded⟩ :=
                verify_bytes_origin decodes origin returned
              have answer : ReadOrigin node codec given
                  ⟨source, batchId, .returned (.ok verified)⟩ := by
                rw [copied]
                exact ⟨owner, proof, held, rfl, named⟩
              have moved : VerifierOrigins node codec given (system.setStage index
                  ⟨source, batchId, .filesRead proofBytes traceBytes⟩
                  (.returned (.ok verified))) := set_stage_keeps_origins origins answer
              constructor
              case files => exact moved.files
              case readings => exact moved.readings
              case verified =>
                intro other member
                rw [recorded] at member
                rcases List.mem_append.mp member with old | new
                · exact origins.verified other old
                · rw [List.mem_singleton.mp new]
                  exact ⟨owner, proof, readings, held, copied⟩
  | returned result =>
      simp only [VerifiedChain.System.advance]
      have done : ReadOrigin node codec given ⟨source, batchId, .done⟩ := trivial
      refine set_stage_keeps_origins ?_ done
      unfold VerifiedChain.System.finish
      split
      · exact origins
      · exact same_batches_keep_origins rfl origins
      · exact origins
      · exact same_batches_keep_origins rfl origins
  | done => exact origins

theorem verifier_step_keeps_origins {action : VerifiedChain.Action}
    (decodes : DecodesWhole node codec)
    (written : ∀ name content, action = .setFile name content → ∀ batchId bytes,
      node.proofDir.fileAt name = node.proofPath batchId → content = .ok bytes →
      PartOfGiven node codec given (node.proofPath batchId) bytes)
    (origins : VerifierOrigins node codec given system) :
    VerifierOrigins node codec given (VerifiedChain.step node system action) := by
  cases action with
  | setFile name content =>
      constructor
      case files =>
        intro batchId bytes read
        simp only [VerifiedChain.step] at read
        split_ifs at read with same
        · exact written name content rfl batchId bytes same.symm read
        · exact origins.files batchId bytes read
      case readings => exact origins.readings
      case verified => exact origins.verified
  | verifyBatch batchId => exact start_keeps_origins origins
  | proofBroadcast message =>
      apply start_keeps_origins
      exact same_batches_keep_origins rfl origins
  | pollEntry batchId =>
      rw [VerifiedChain.step]
      split_ifs
      · exact origins
      · exact start_keeps_origins origins
  | advance index readings =>
      cases found : system.tasks[index]? with
      | none =>
          simp only [VerifiedChain.step, found]
          exact origins
      | some task =>
          simp only [VerifiedChain.step, found]
          exact advance_keeps_origins readings decodes found origins

end VerifierSteps

/-! ## Steps of the validator -/

section ValidatorSteps

variable {Policy : Type} {validator : Validator Policy} {given : Given}
variable {system : ValidatorNode.System}

theorem executed_stage_irrelevant {task : ValidatorNode.Task} {stage : ValidatorNode.Stage}
    {trace : ExecutionTrace} (executed : Executed validator task trace) :
    Executed validator { task with stage := stage } trace :=
  executed

theorem nothing_given_beyond (origins : ValidatorOrigins validator given system) {index : Nat}
    (beyond : system.tasks[index]? = none) : given index = none := by
  cases held : given index with
  | none => rfl
  | some proof =>
      obtain ⟨task, _, found, _⟩ := origins.made index proof held
      rw [found] at beyond
      cases beyond

theorem submit_keeps_origins {state : ValidatorNode.ValidatorState}
    {submitted : List Transaction} (proofs : state.proofs = system.state.proofs)
    (origins : ValidatorOrigins validator given system) :
    ValidatorOrigins validator given
      { system with state := state, submitted := submitted } where
  made := origins.made
  stages := origins.stages
  records := by
    intro record member
    rw [proofs] at member
    exact origins.records record member

theorem seal_keeps_origins {state : ValidatorNode.ValidatorState} {batchId : String}
    {transactions : List Transaction} (proofs : state.proofs = system.state.proofs)
    (origins : ValidatorOrigins validator given system) :
    ValidatorOrigins validator given { system with
      state := state
      tasks := system.tasks ++ [⟨batchId, transactions, .sealed⟩] } := by
  have kept : ∀ (index : Nat) (task : ValidatorNode.Task), system.tasks[index]? = some task →
      (system.tasks ++ [⟨batchId, transactions, .sealed⟩])[index]? = some task := by
    intro index task found
    have bound := (List.getElem?_eq_some_iff.mp found).1
    rw [List.getElem?_append_left bound]
    exact found
  constructor
  case made =>
    intro index proof held
    obtain ⟨task, trace, found, rest⟩ := origins.made index proof held
    exact ⟨task, trace, kept index task found, rest⟩
  case stages =>
    intro index task found
    cases old : system.tasks[index]? with
    | some earlier =>
        cases (kept index earlier old).symm.trans found
        exact origins.stages index task old
    | none =>
        have fresh := nothing_given_beyond origins old
        have member := List.mem_of_getElem? found
        rw [List.getElem?_eq_none_iff] at old
        rw [List.getElem?_append_right old] at found
        have single := List.mem_of_getElem? found
        rw [List.mem_singleton] at single
        subst single
        exact fresh
  case records =>
    intro record member
    rw [proofs] at member
    obtain ⟨index, proof, task, timestamp, held, found, copied⟩ := origins.records record member
    exact ⟨index, proof, task, timestamp, held, kept index task found, copied⟩

theorem move_keeps_origins {index : Nat} {task : ValidatorNode.Task}
    {stage : ValidatorNode.Stage} {later : Given} (found : system.tasks[index]? = some task)
    (extended : Extends later given)
    (others : ∀ other, other ≠ index → later other = given other)
    (fresh : ∀ proof, later index = some proof → given index = some proof ∨
      ∃ trace, Executed validator task trace ∧ ProofOf trace proof)
    (origin : StageOrigin validator (later index) { task with stage := stage })
    (origins : ValidatorOrigins validator given system) :
    ValidatorOrigins validator later (system.setStage index task stage) := by
  have bound := (List.getElem?_eq_some_iff.mp found).1
  have here : (system.tasks.set index { task with stage := stage })[index]? =
      some { task with stage := stage } := List.getElem?_set_self bound
  have elsewhere : ∀ other, other ≠ index →
      (system.tasks.set index { task with stage := stage })[other]? = system.tasks[other]? :=
    fun other different => List.getElem?_set_ne (Ne.symm different)
  have kept : ∀ (other : Nat) (old : ValidatorNode.Task), system.tasks[other]? = some old →
      ∃ moved, (system.tasks.set index { task with stage := stage })[other]? = some moved ∧
        moved.batchId = old.batchId ∧ moved.transactions = old.transactions := by
    intro other old oldFound
    by_cases same : other = index
    · subst same
      cases found.symm.trans oldFound
      exact ⟨_, here, rfl, rfl⟩
    · exact ⟨old, (elsewhere other same).trans oldFound, rfl, rfl⟩
  constructor
  case made =>
    intro other proof held
    by_cases same : other = index
    · subst same
      rcases fresh proof held with old | ⟨trace, executed, made⟩
      · obtain ⟨owner, trace, ownerFound, executed, made⟩ := origins.made other proof old
        cases found.symm.trans ownerFound
        exact ⟨_, trace, here, executed_stage_irrelevant executed, made⟩
      · exact ⟨_, trace, here, executed_stage_irrelevant executed, made⟩
    · rw [others other same] at held
      obtain ⟨owner, trace, ownerFound, rest⟩ := origins.made other proof held
      exact ⟨owner, trace, (elsewhere other same).trans ownerFound, rest⟩
  case stages =>
    intro other current currentFound
    by_cases same : other = index
    · subst same
      cases here.symm.trans currentFound
      exact origin
    · rw [others other same]
      exact origins.stages other current ((elsewhere other same).symm.trans currentFound)
  case records =>
    intro record member
    obtain ⟨other, proof, owner, timestamp, held, ownerFound, copied⟩ :=
      origins.records record member
    obtain ⟨moved, movedFound, sameId, _⟩ := kept other owner ownerFound
    refine ⟨other, proof, moved, timestamp, extended other proof held, movedFound, ?_⟩
    rw [sameId]
    exact copied

theorem stay_keeps_origins {index : Nat} {task : ValidatorNode.Task}
    {stage : ValidatorNode.Stage} (found : system.tasks[index]? = some task)
    (origin : StageOrigin validator (given index) { task with stage := stage })
    (origins : ValidatorOrigins validator given system) :
    ValidatorOrigins validator given (system.setStage index task stage) :=
  move_keeps_origins found (fun _ _ held => held) (fun _ _ => rfl) (fun _ held => .inl held)
    origin origins

theorem next_stage_origin {held : Option Proof} {task : ValidatorNode.Task} (event : Event)
    (noProof : ∀ proof timestamp trace, event = .prove (.returned (.ok proof)) timestamp →
      task.stage ≠ .executed trace)
    (origin : StageOrigin validator held task) :
    StageOrigin validator held { task with stage := nextStage validator task event } := by
  rcases task with ⟨batchId, transactions, stage⟩
  cases event with
  | execute startTs sealTs =>
      cases stage with
      | sealed =>
          simp only [nextStage]
          split
          · rename_i trace executed
            exact ⟨origin, startTs, sealTs, executed⟩
          · trivial
      | _ => exact origin
  | prove outcome timestamp =>
      cases stage with
      | executed trace =>
          rcases outcome with (error | proof) | joinError
          · trivial
          · exact absurd rfl (noProof proof timestamp trace rfl)
          · trivial
      | _ => exact origin
  | tear count => exact origin
  | write outcome =>
      cases stage with
      | proved trace proof timestamp =>
          cases outcome with
          | error reason => trivial
          | ok done => exact origin
      | proofWritten trace proof timestamp =>
          cases outcome with
          | error reason => trivial
          | ok done => exact origin
      | _ => exact origin
  | record => exact origin

theorem record_keeps_origins {index : Nat} {task : ValidatorNode.Task} {proof : Proof}
    {timestamp : UInt64} (found : system.tasks[index]? = some task)
    (saved : task.stage = .saved proof timestamp)
    (origins : ValidatorOrigins validator given system) :
    ValidatorOrigins validator given { system.setStage index task .recorded with
      state := { system.state with
        proofs := system.state.proofs ++ [proofRecord task.batchId proof timestamp] } } := by
  have held : given index = some proof := by
    have origin := origins.stages index task found
    rw [StageOrigin, saved] at origin
    exact origin
  have moved : ValidatorOrigins validator given (system.setStage index task .recorded) :=
    stay_keeps_origins found trivial origins
  constructor
  case made => exact moved.made
  case stages => exact moved.stages
  case records =>
    intro record member
    rcases List.mem_append.mp member with old | new
    · exact moved.records record old
    · rw [List.mem_singleton.mp new]
      have bound := (List.getElem?_eq_some_iff.mp found).1
      exact ⟨index, proof, { task with stage := .recorded }, timestamp, held,
        List.getElem?_set_self bound, rfl⟩

end ValidatorSteps

/-! ## Steps of both -/

/-- Only the proof that a call was given goes to a proof file, whole or in part. -/
theorem file_write_origin {Policy : Type} {validator : Validator Policy} {node : VerifierNode}
    {codec : Codec} {held : Option Proof} {task : ValidatorNode.Task} {event : Event}
    {write : FileWrite} {batchId : String} (origin : StageOrigin validator held task)
    (written : fileWrite codec task event = some write)
    (named : node.proofDir.fileAt write.name = node.proofPath batchId) :
    ∃ proof count, held = some proof ∧ node.proofPath proof.batchId = node.proofPath batchId ∧
      write.content = (codec.serializeProof proof).take count := by
  rcases task with ⟨owner, transactions, stage⟩
  cases event with
  | tear count =>
      cases stage with
      | proved trace proof timestamp =>
          cases written
          exact ⟨proof, count, origin, named, rfl⟩
      | proofWritten trace proof timestamp =>
          cases written
          exact absurd named.symm (node.proofDir.proof_ne_trace batchId proof.batchId)
      | _ => cases written
  | write outcome =>
      cases outcome with
      | error reason => cases written
      | ok done =>
          cases stage with
          | proved trace proof timestamp =>
              cases written
              refine ⟨proof, (codec.serializeProof proof).length, origin, named, ?_⟩
              rw [List.take_length]
          | proofWritten trace proof timestamp =>
              cases written
              exact absurd named.symm (node.proofDir.proof_ne_trace batchId proof.batchId)
          | _ => cases written
  | _ => cases written

section Exchange

variable {Policy : Type} [PolicyEngine Policy] {validator : Validator Policy}
variable {node : VerifierNode} {codec : Codec} {system : Exchange}

/-- Both nodes can be traced back to the proofs given out. -/
structure Origins (validator : Validator Policy) (node : VerifierNode) (codec : Codec)
    (given : Given) (system : Exchange) : Prop where
  validator : ValidatorOrigins validator given system.validator
  verifier : VerifierOrigins node codec given system.verifier

omit [PolicyEngine Policy] in
theorem written_origin {given : Given} {action : Action} {write : FileWrite} {batchId : String}
    (origins : ValidatorOrigins validator given system.validator)
    (written : system.writes codec action = some write)
    (named : node.proofDir.fileAt write.name = node.proofPath batchId) :
    PartOfGiven node codec given (node.proofPath batchId) write.content := by
  cases action with
  | validator inner =>
      cases inner with
      | advance index event =>
          obtain ⟨task, found, one⟩ := Option.bind_eq_some_iff.mp written
          obtain ⟨proof, count, held, rest⟩ :=
            file_write_origin (origins.stages index task found) one named
          exact ⟨index, proof, count, held, rest⟩
      | _ => cases written
  | _ => cases written

theorem verifier_half {given : Given} {action : Action} (decodes : DecodesWhole node codec)
    (origins : Origins validator node codec given system) :
    VerifierOrigins node codec given (step validator node codec system action).verifier := by
  simp only [step]
  cases chosen : verifierAction codec system action with
  | none => exact origins.verifier
  | some inner =>
      apply verifier_step_keeps_origins decodes _ origins.verifier
      intro name content isWrite batchId bytes named readable
      subst isWrite
      cases action with
      | validator own =>
          simp only [verifierAction, Option.map_eq_some_iff] at chosen
          obtain ⟨write, written, same⟩ := chosen
          cases same
          cases readable
          exact written_origin origins.validator written named
      | _ => cases chosen

omit [PolicyEngine Policy] in
theorem advance_half {given : Given} {index : Nat} {event : Event} {task : ValidatorNode.Task}
    (found : system.validator.tasks[index]? = some task)
    (honest : ProvesOwnTrace validator system (.validator (.advance index event)))
    (origins : ValidatorOrigins validator given system.validator) :
    ∃ later, Extends later given ∧
      ValidatorOrigins validator later
        (system.validator.advance validator index task event) := by
  have origin := origins.stages index task found
  rcases ValidatorRuns.advance_cases event found with
    ⟨proof, timestamp, _, saved, result⟩ | ⟨_, result⟩ | ⟨_, result⟩
  · rw [result]
    exact ⟨given, fun _ _ held => held, record_keeps_origins found saved origins⟩
  · rw [result]
    by_cases proving : ∃ proof timestamp trace,
        event = .prove (.returned (.ok proof)) timestamp ∧ task.stage = .executed trace
    · obtain ⟨proof, timestamp, trace, rfl, stage⟩ := proving
      obtain ⟨sp1Prove, provingTimeMs, generatedAt, proved⟩ := honest task trace found stage
      have idle : given index = none ∧ Executed validator task trace := by
        rw [StageOrigin, stage] at origin
        exact origin
      have next : nextStage validator task (.prove (.returned (.ok proof)) timestamp) =
          .proved trace proof timestamp := by
        simp only [nextStage, stage]
      have extended : Extends (Function.update given index (some proof)) given := by
        intro other earlier held
        by_cases same : other = index
        · rw [same, idle.1] at held
          cases held
        · rw [Function.update_of_ne same]
          exact held
      refine ⟨Function.update given index (some proof), extended, ?_⟩
      rw [next]
      apply move_keeps_origins found extended _ _ _ origins
      · intro other different
        exact Function.update_of_ne different _ _
      · intro other held
        rw [Function.update_self, Option.some.injEq] at held
        subst held
        exact .inr ⟨trace, idle.2, prove_proof_of proved⟩
      · exact Function.update_self _ _ _
    · refine ⟨given, fun _ _ held => held, stay_keeps_origins found ?_ origins⟩
      apply next_stage_origin event _ origin
      intro proof timestamp trace isProof stage
      exact proving ⟨proof, timestamp, trace, isProof, stage⟩
  · rw [result]
    exact ⟨given, fun _ _ held => held, origins⟩

theorem validator_half {given : Given} {action : Action}
    (honest : ProvesOwnTrace validator system action)
    (origins : ValidatorOrigins validator given system.validator) :
    ∃ later, Extends later given ∧
      ValidatorOrigins validator later (step validator node codec system action).validator := by
  have unmoved : ∃ later, Extends later given ∧
      ValidatorOrigins validator later system.validator :=
    ⟨given, fun _ _ held => held, origins⟩
  cases action with
  | validator inner =>
      cases inner with
      | submit params now =>
          simp only [step, ValidatorNode.step]
          cases submitted : ValidatorNode.submitTransaction validator params now
              system.validator.state with
          | none => exact unmoved
          | some result =>
              obtain ⟨counter, _, _, after⟩ := ValidatorRuns.submit_some submitted
              refine ⟨given, fun _ _ held => held, submit_keeps_origins ?_ origins⟩
              rw [after]
      | checkAndSeal now =>
          simp only [step, ValidatorNode.step]
          cases sealed : ValidatorNode.checkAndSealBatch validator now
              system.validator.state with
          | none => exact unmoved
          | some result =>
              obtain ⟨counter, _, _, _, _, after⟩ := ValidatorRuns.check_and_seal_some sealed
              refine ⟨given, fun _ _ held => held, seal_keeps_origins ?_ origins⟩
              rw [after]
      | advance index event =>
          simp only [step, ValidatorNode.step]
          cases found : system.validator.tasks[index]? with
          | none => exact unmoved
          | some task => exact advance_half found honest origins
  | _ => exact unmoved

theorem step_keeps_origins {action : Action} (decodes : DecodesWhole node codec)
    (honest : ProvesOwnTrace validator system action)
    (traced : ∃ given, Origins validator node codec given system) :
    ∃ given, Origins validator node codec given (step validator node codec system action) := by
  obtain ⟨given, origins⟩ := traced
  obtain ⟨later, extended, moved⟩ :=
    @validator_half _ _ validator node codec system given action honest origins.validator
  exact ⟨later, moved, verifier_origins_extends extended (verifier_half decodes origins)⟩

omit [PolicyEngine Policy] in
theorem init_origins {disk : Disk}
    (unwritten : ∀ batchId bytes, disk (node.proofPath batchId) ≠ .ok bytes) :
    Origins validator node codec (fun _ => none) (.init disk) := by
  constructor
  · constructor
    · intro index proof held
      cases held
    · intro index task found
      cases found
    · intro record member
      cases member
  · constructor
    · intro batchId bytes read
      exact absurd read (unwritten batchId bytes)
    · intro task member
      cases member
    · intro verified member
      cases member

theorem exchange_sealing (disk : Disk) (actions : List Action) :
    Always (step validator node codec) (.init disk) actions
      (fun system => Sealing validator.batchSize system.validator) := by
  have free : EachStep (step validator node codec) (.init disk) actions fun _ _ => True :=
    fun _ _ _ => trivial
  have initially : Sealing validator.batchSize (Exchange.init disk).validator :=
    ValidatorRuns.init_sealing _
  refine always_of_each_step initially ?_ free
  intro system action sealing _
  cases action with
  | validator inner => exact ValidatorRuns.step_keeps_sealing inner sealing
  | _ => exact sealing

end Exchange

/-! ## Attested batches -/

section Headers

variable {hashBytes : CommonMerkle.HashBytes} {executor : DeterministicExecutor}
variable {mode : MachineArithmetic.OverflowMode}

theorem execute_loop_header {index : Nat} {state final : CommonMerkle.State}
    {builder built : TraceBuilding.TraceBuilder} {submissions : List Submission}
    (completed : executeLoop hashBytes executor mode index state builder submissions =
      some (final, built)) :
    built.batchId = builder.batchId ∧
      built.entries.length = builder.entries.length + submissions.length := by
  induction submissions generalizing index state builder with
  | nil =>
      cases completed
      exact ⟨rfl, rfl⟩
  | cons submission rest ih =>
      simp only [executeLoop, TraceBuilding.TraceBuilder.addEntry, bind, Option.bind_eq_some_iff,
        Option.some.injEq] at completed
      obtain ⟨_, _, _, ⟨total, _, rfl⟩, continued⟩ := completed
      have later := ih continued
      rw [List.length_append, List.length_singleton] at later
      rw [List.length_cons]
      exact ⟨later.1, by omega⟩

theorem executed_header {Policy : Type} {validator : Validator Policy} {task : ValidatorNode.Task}
    {trace : ExecutionTrace} (executed : Executed validator task trace) :
    trace.batchId = task.batchId ∧ trace.entries.length = task.transactions.length := by
  obtain ⟨startTs, sealTs, ran⟩ := executed
  simp only [FullExecutor.executeWithTransactions, executeSubmissions, bind,
    Option.bind_eq_some_iff, Option.some.injEq] at ran
  obtain ⟨⟨final, built⟩, looped, rfl⟩ := ran
  have header := execute_loop_header looped
  rw [List.length_map] at header
  exact ⟨header.1, header.2.trans (Nat.zero_add _)⟩

end Headers

/-- The attested values are those of a batch that the validator cut out of the stream of its
submissions and executed. -/
def AttestsOwnBatch {Policy : Type} (validator : Validator Policy) (system : ValidatorNode.System)
    (verified : VerifiedBatch) : Prop :=
  ∃ task ∈ system.tasks, ∃ trace earlier later, Executed validator task trace ∧
    verified.batchId = task.batchId ∧
    verified.stateRootPre = trace.stateRootPre ∧
    verified.stateRootPost = trace.stateRootPost ∧
    verified.txCount = task.transactions.length ∧
    system.submitted = earlier ++ task.transactions ++ later

/-- The batch that is read under this id: under an id without path parts the one of that id,
otherwise the one whose file the path leads to. -/
structure FoundUnder (node : VerifierNode) (asked batchId : String) : Prop where
  file : node.proofPath batchId = node.proofPath asked
  plain : Plain asked → batchId = asked

/-- What the two nodes tell their clients about one batch. -/
structure SameFacts (record : ValidatorNode.ProofRecord) (verified : VerifiedBatch) : Prop where
  proofHash : verified.proofHash = record.proofHash
  stateRootPre : verified.stateRootPre = record.stateRootPre
  stateRootPost : verified.stateRootPost = record.stateRootPost
  txCount : verified.txCount = record.txCount

section Attested

variable {Policy : Type} {validator : Validator Policy} {node : VerifierNode} {codec : Codec}
variable {given : Given} {system : ValidatorNode.System} {batchSize : Nat}

theorem segment_of_stream (sealing : Sealing batchSize system) {task : ValidatorNode.Task}
    (member : task ∈ system.tasks) :
    ∃ earlier later, system.submitted = earlier ++ task.transactions ++ later := by
  obtain ⟨before, after, split⟩ := List.append_of_mem member
  refine ⟨(before.map ValidatorNode.Task.transactions).flatten,
    (after.map ValidatorNode.Task.transactions).flatten ++ system.state.pendingTxs, ?_⟩
  rw [← sealing.order, ValidatorRuns.drained, split]
  simp

theorem given_attests_own (origins : ValidatorOrigins validator given system)
    (sealing : Sealing batchSize system) {index : Nat} {proof : Proof}
    (held : given index = some proof) (readings : Readings) :
    AttestsOwnBatch validator system (attested node readings proof) := by
  obtain ⟨task, trace, found, executed, made⟩ := origins.made index proof held
  have member := List.mem_of_getElem? found
  obtain ⟨earlier, later, cut⟩ := segment_of_stream sealing member
  obtain ⟨sameId, sameLength⟩ := executed_header executed
  exact ⟨task, member, trace, earlier, later, executed, made.batchId.trans sameId,
    made.stateRootPre, made.stateRootPost, made.txCount.trans sameLength, cut⟩

theorem sealed_batch_plain (sealing : Sealing batchSize system) {task : ValidatorNode.Task}
    (member : task ∈ system.tasks) : Plain task.batchId := by
  have issued : task.batchId ∈ ValidatorRuns.batchIds system := List.mem_map_of_mem member
  rw [sealing.batchIds, IssuedIds.issued, List.mem_map] at issued
  obtain ⟨earlier, _, same⟩ := issued
  rw [← same]
  exact IssuedIds.format_batch_id_plain _

theorem given_plain (origins : ValidatorOrigins validator given system)
    (sealing : Sealing batchSize system) {index : Nat} {proof : Proof}
    (held : given index = some proof) : Plain proof.batchId := by
  obtain ⟨task, trace, found, executed, made⟩ := origins.made index proof held
  rw [made.batchId, (executed_header executed).1]
  exact sealed_batch_plain sealing (List.mem_of_getElem? found)

theorem returned_found_under {task : VerifiedChain.Task} {verified : VerifiedBatch}
    (plain : ∀ index proof, given index = some proof → Plain proof.batchId)
    (origin : ReadOrigin node codec given task) (stage : task.stage = .returned (.ok verified)) :
    FoundUnder node task.batchId verified.batchId := by
  rw [ReadOrigin, stage] at origin
  obtain ⟨index, proof, held, copied, sameFile⟩ := origin
  rw [copied]
  exact ⟨sameFile, fun asked =>
    node.proofDir.proof_injective _ _ (plain index proof held) asked sameFile⟩

theorem given_unique (origins : ValidatorOrigins validator given system)
    (distinct : (ValidatorRuns.batchIds system).Nodup) {left right : Nat}
    {leftProof rightProof : Proof} (leftHeld : given left = some leftProof)
    (rightHeld : given right = some rightProof)
    (same : leftProof.batchId = rightProof.batchId) : leftProof = rightProof := by
  obtain ⟨leftTask, _, leftFound, leftExecuted, leftMade⟩ := origins.made _ _ leftHeld
  obtain ⟨rightTask, _, rightFound, rightExecuted, rightMade⟩ := origins.made _ _ rightHeld
  rw [leftMade.batchId, rightMade.batchId, (executed_header leftExecuted).1,
    (executed_header rightExecuted).1] at same
  have leftId : (ValidatorRuns.batchIds system)[left]? = some leftTask.batchId := by
    rw [ValidatorRuns.batchIds, List.getElem?_map, leftFound]
    rfl
  have rightId : (ValidatorRuns.batchIds system)[right]? = some leftTask.batchId := by
    rw [ValidatorRuns.batchIds, List.getElem?_map, rightFound, same]
    rfl
  have bound := (List.getElem?_eq_some_iff.mp leftId).1
  have place := (List.getElem?_inj bound distinct).mp (leftId.trans rightId.symm)
  rw [place] at leftHeld
  exact Option.some.inj (leftHeld.symm.trans rightHeld)

end Attested

section Samples

open CatalystSvm.ValidatorNode CatalystSvm.ValidatorRuns

def singleCodec : Codec where
  serializeProof proof := if proof = polledProof then [1] else []
  serializeTrace _ := [2]

/-- A client asks for the batch while its proof is torn, and once more, under another name
of its files, when the validator has recorded it. -/
def tornRun : List ProofPolling.Action :=
  [.validator (.submit (sampleParams "alice") 0), .validator (.checkAndSeal 0),
    .validator (.advance 0 (.execute 0 0)),
    .validator (.advance 0 (.prove (.returned (.ok polledProof)) 0)),
    .validator (.advance 0 (.tear 0)), .verifyBatch "batch_000001",
    .verifierAdvance 0 sampleReadings, .validator writeFile, .validator writeFile,
    .validator (.advance 0 .record), .verifyBatch "./batch_000001",
    .verifierAdvance 0 sampleReadings, .verifierAdvance 0 sampleReadings,
    .verifierAdvance 1 sampleReadings, .verifierAdvance 1 sampleReadings,
    .verifierAdvance 1 sampleReadings]

theorem single_codec_decodes : DecodesWhole polledNode singleCodec := by
  intro proof count other decoded
  simp only [polledNode, singleCodec] at decoded
  by_cases isPolled : proof = polledProof
  · rw [if_pos isPolled] at decoded
    split_ifs at decoded
    cases decoded
    exact isPolled.symm
  · rw [if_neg isPolled, List.take_nil] at decoded
    cases decoded

theorem polled_outcome : polledOutcome = .ok polledProof := by
  have returned : polledOutcome.toOption.isSome = true := by decide +kernel
  unfold polledProof
  cases outcome : polledOutcome with
  | error reason =>
      rw [outcome] at returned
      cases returned
  | ok proof => rfl

def tornState (count : Nat) : Exchange :=
  stateAfter (ProofPolling.step eagerValidator polledNode singleCodec) (.init emptyDirectory)
    tornRun count

def executedTrace (task : ValidatorNode.Task) : Option ExecutionTrace :=
  match task.stage with
  | .executed trace => some trace
  | _ => none

theorem torn_run_honest :
    EachStep (ProofPolling.step eagerValidator polledNode singleCodec) (.init emptyDirectory)
      tornRun fun system => ProvesOwnTrace eagerValidator system := by
  intro count action taken
  by_cases proving : count = 3
  · subst proving
    cases taken
    intro task trace found stage
    have known : (tornState 3).validator.tasks[0]?.map (fun task =>
        (task.transactions, executedTrace task)) =
          some (polledTask.transactions, some polledTrace) := by
      decide +kernel
    rw [tornState, found, Option.map_some, executedTrace, stage, Option.some.injEq,
      Prod.mk.injEq, Option.some.injEq] at known
    rw [known.1, known.2]
    exact ⟨_, 0, 0, polled_outcome⟩
  · have others : ∀ index, index ≠ 3 → ∀ other, tornRun[index]? = some other → ∀ system,
        ProvesOwnTrace eagerValidator system other := by
      intro index different other listed system
      have quiet : ∀ other ∈ tornRun.eraseIdx 3, ProvesOwnTrace eagerValidator system other := by
        simp [tornRun, ProvesOwnTrace, writeFile]
      exact quiet other (List.mem_eraseIdx_iff_getElem?.mpr ⟨index, different, listed⟩)
    exact others count proving action taken _

end Samples

end CatalystSvm.AttestationOrigins
