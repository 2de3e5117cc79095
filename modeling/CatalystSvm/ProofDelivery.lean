import CatalystSvm.AttestationOrigins
import CatalystSvm.ServedPipeline

/-!
# Recorded batches can be verified

The other half of the exchange between validator and verifier: over a dependable SP1,
the files of a batch that the validator has recorded stay valid, whatever the calls for
other batches write, and every verification of it that starts from then on is answered
with an attestation after its three awaits, whatever else the node is doing.
-/

namespace CatalystSvm.ProofDelivery

open CatalystSvm.CommonTypes CatalystSvm.BatchPolicy CatalystSvm.ExecutionEngine
open CatalystSvm.ProverInputs CatalystSvm.ProofVerifier CatalystSvm.ProofAttestation
open CatalystSvm.ProofPolling CatalystSvm.AttestationOrigins CatalystSvm.ServedPipeline
open CatalystSvm.Library.Runs CatalystSvm.Library.TaskLists
open CatalystSvm.ValidatorNode (Validator Event nextStage)
open CatalystSvm.ValidatorRuns (Sealing)
open CatalystSvm.VerifiedChain (verifiedIds)
open CatalystSvm.GuestProgram (Stdin)
open CatalystSvm.Library.PathNames (Plain)
open CatalystSvm.MachineArithmetic (OverflowMode)

set_option autoImplicit false

structure RoundTrips (node : VerifierNode) (codec : Codec) : Prop where
  proof : ∀ proof, node.deserializeProof (codec.serializeProof proof) = .ok proof
  trace : ∀ trace, node.parseTrace (codec.serializeTrace trace) = .ok trace

/-- The proving task of a batch runs `Sp1Prover::prove` on its trace, over this SP1 prover. -/
def ProvedWith {Policy : Type} (validator : Validator Policy)
    (sp1Prove : Stdin → Except String (List UInt8)) (system : Exchange) : Action → Prop
  | .validator (.advance index (.prove (.returned (.ok proof)) _)) =>
      ∀ task trace, system.validator.tasks[index]? = some task → task.stage = .executed trace →
        ∃ provingTimeMs generatedAt, prove validator.hashBytes sp1Prove provingTimeMs generatedAt
          trace task.transactions = .ok proof
  | _ => True

/-- A proof of this batch that the verifier accepts. -/
structure Genuine (node : VerifierNode) (batchId : String) (trace : ExecutionTrace)
    (proof : Proof) : Prop where
  named : proof.batchId = batchId
  accepted : ∀ sp1Ms, Accepts node.sdk sp1Ms proof trace

/-- What a call has put into the proof directory so far. -/
def Delivers (node : VerifierNode) (codec : Codec) (disk : Disk) (task : ValidatorNode.Task) :
    Prop :=
  match task.stage with
  | .executed trace => trace.batchId = task.batchId
  | .proved trace proof _ => Genuine node task.batchId trace proof
  | .proofWritten trace proof _ => Genuine node task.batchId trace proof ∧
      disk (node.proofPath task.batchId) = .ok (codec.serializeProof proof)
  | .saved .. | .recorded => ValidFiles node disk task.batchId
  | _ => True

def Delivered (node : VerifierNode) (codec : Codec) (system : Exchange) : Prop :=
  ∀ (index : Nat) (task : ValidatorNode.Task), system.validator.tasks[index]? = some task →
    Delivers node codec system.verifier.disk task

section Writes

variable {node : VerifierNode} {codec : Codec} {disk later : Disk}

def written (node : VerifierNode) (disk : Disk) : Option FileWrite → Disk
  | none => disk
  | some write => fun path =>
      if path = node.proofDir.fileAt write.name then .ok write.content else disk path

theorem delivers_congr {task : ValidatorNode.Task} (same : SameFiles node disk later task.batchId)
    (delivers : Delivers node codec disk task) : Delivers node codec later task := by
  obtain ⟨batchId, transactions, stage⟩ := task
  cases stage with
  | proofWritten trace proof timestamp => exact ⟨delivers.1, same.1.symm.trans delivers.2⟩
  | saved proof timestamp => exact valid_files_congr same delivers
  | recorded => exact valid_files_congr same delivers
  | _ => exact delivers

theorem other_files_kept {task other : ValidatorNode.Task} (event : Event)
    (delivers : Delivers node codec disk task) (otherPlain : Plain other.batchId)
    (plain : Plain task.batchId) (different : other.batchId ≠ task.batchId) :
    SameFiles node disk (written node disk (fileWrite codec task event)) other.batchId := by
  have apart (name : String) (proof : Proof) (named : proof.batchId = task.batchId)
      (one : name = proofFile proof.batchId ∨ name = traceFile proof.batchId) :
      node.proofPath other.batchId ≠ node.proofDir.fileAt name ∧
        node.tracePath other.batchId ≠ node.proofDir.fileAt name := by
    rw [named] at one
    cases one with
    | inl isProof =>
        rw [isProof]
        exact ⟨fun same => different (node.proofDir.proof_injective _ _ otherPlain plain same),
          fun same => node.proofDir.proof_ne_trace _ _ same.symm⟩
    | inr isTrace =>
        rw [isTrace]
        exact ⟨node.proofDir.proof_ne_trace _ _,
          fun same => different (node.proofDir.trace_injective _ _ otherPlain plain same)⟩
  have kept (write : FileWrite)
      (elsewhere : node.proofPath other.batchId ≠ node.proofDir.fileAt write.name ∧
        node.tracePath other.batchId ≠ node.proofDir.fileAt write.name) :
      SameFiles node disk (written node disk (some write)) other.batchId :=
    ⟨(if_neg elsewhere.1).symm, (if_neg elsewhere.2).symm⟩
  obtain ⟨batchId, transactions, stage⟩ := task
  cases event with
  | tear count =>
      cases stage with
      | proved trace proof timestamp =>
          exact kept _ (apart _ proof delivers.named (.inl rfl))
      | proofWritten trace proof timestamp =>
          exact kept _ (apart _ proof delivers.1.named (.inr rfl))
      | _ => exact ⟨rfl, rfl⟩
  | write outcome =>
      cases outcome with
      | error reason => exact ⟨rfl, rfl⟩
      | ok done =>
          cases stage with
          | proved trace proof timestamp =>
              exact kept _ (apart _ proof delivers.named (.inl rfl))
          | proofWritten trace proof timestamp =>
              exact kept _ (apart _ proof delivers.1.named (.inr rfl))
          | _ => exact ⟨rfl, rfl⟩
  | _ => exact ⟨rfl, rfl⟩

end Writes

/-! ## The validator's half -/

section Validator

variable {Policy : Type} {validator : Validator Policy} {node : VerifierNode} {codec : Codec}
variable {sp1Prove : Stdin → Except String (List UInt8)} {disk : Disk}

theorem next_stage_delivers {task : ValidatorNode.Task} (event : Event)
    (roundTrips : RoundTrips node codec)
    (proves : ∀ trace proof timestamp, task.stage = .executed trace →
      event = .prove (.returned (.ok proof)) timestamp →
      ProofOf trace proof ∧ ∀ sp1Ms, Accepts node.sdk sp1Ms proof trace)
    (delivers : Delivers node codec disk task) :
    Delivers node codec (written node disk (fileWrite codec task event))
      { task with stage := nextStage validator task event } := by
  obtain ⟨batchId, transactions, stage⟩ := task
  cases event with
  | execute startTs sealTs =>
      cases stage with
      | sealed =>
          simp only [nextStage]
          cases ran : validator.executor.executeWithTransactions validator.hashBytes validator.mode
              (ValidatorNode.processedBatch ⟨batchId, transactions, .sealed⟩ startTs sealTs)
              transactions with
          | none => trivial
          | some trace => exact (executed_header ⟨startTs, sealTs, ran⟩).1
      | _ => exact delivers
  | prove outcome timestamp =>
      cases stage with
      | executed trace =>
          cases outcome with
          | panicked joinError => trivial
          | returned result =>
              cases result with
              | error error => trivial
              | ok proof =>
                  obtain ⟨copied, accepted⟩ := proves trace proof timestamp rfl rfl
                  exact ⟨copied.batchId.trans delivers, accepted⟩
      | _ => exact delivers
  | tear count =>
      cases stage with
      | proofWritten trace proof timestamp =>
          refine ⟨delivers.1, ?_⟩
          exact (if_neg (node.proofDir.proof_ne_trace _ _)).trans delivers.2
      | _ => exact delivers
  | write outcome =>
      cases outcome with
      | error reason =>
          cases stage with
          | proved trace proof timestamp => trivial
          | proofWritten trace proof timestamp => trivial
          | _ => exact delivers
      | ok done =>
          cases stage with
          | proved trace proof timestamp =>
              refine ⟨delivers, ?_⟩
              exact if_pos (congrArg node.proofPath delivers.named.symm)
          | proofWritten trace proof timestamp =>
              obtain ⟨genuine, stored⟩ := delivers
              have traceRead : written node disk (fileWrite codec
                  ⟨batchId, transactions, .proofWritten trace proof timestamp⟩ (.write (.ok ())))
                    (node.tracePath batchId) = .ok (codec.serializeTrace trace) :=
                if_pos (congrArg node.tracePath genuine.named.symm)
              refine ⟨proof, trace, ⟨_, _, ?_, traceRead, roundTrips.proof proof,
                roundTrips.trace trace⟩, genuine.named, genuine.accepted⟩
              exact (if_neg (node.proofDir.proof_ne_trace _ _)).trans stored
          | _ => exact delivers
  | record =>
      cases stage <;> exact delivers

structure OwnNames (system : ValidatorNode.System) : Prop where
  distinct : ∀ (left right : Nat) (first second : ValidatorNode.Task),
    system.tasks[left]? = some first → system.tasks[right]? = some second →
    first.batchId = second.batchId → left = right
  plain : ∀ (index : Nat) (task : ValidatorNode.Task), system.tasks[index]? = some task →
    Plain task.batchId

theorem own_names_of_sealing {batchSize : Nat} {system : ValidatorNode.System}
    (sealing : Sealing batchSize system) (short : system.tasks.length < 2 ^ 64) :
    OwnNames system := by
  refine ⟨?_, fun index task found => sealed_batch_plain sealing (List.mem_of_getElem? found)⟩
  intro left right first second leftFound rightFound same
  have named (index : Nat) (task : ValidatorNode.Task) (found : system.tasks[index]? = some task) :
      (ValidatorRuns.batchIds system)[index]? = some task.batchId := by
    rw [ValidatorRuns.batchIds, List.getElem?_map, found]
    rfl
  have distinct : (ValidatorRuns.batchIds system).Nodup := by
    rw [sealing.batchIds]
    exact IssuedIds.issued_nodup IssuedIds.format_batch_id_injective short
  have leftNamed := named left first leftFound
  rw [same] at leftNamed
  have bound := (List.getElem?_eq_some_iff.mp leftNamed).1
  exact (List.getElem?_inj bound distinct).mp (leftNamed.trans (named right second rightFound).symm)

end Validator

/-! ## Steps of both -/

section Exchange

variable {Policy : Type} [PolicyEngine Policy] {validator : Validator Policy}
variable {node : VerifierNode} {codec : Codec} {system : Exchange}
variable {sp1Prove : Stdin → Except String (List UInt8)} {guestMode : OverflowMode}

theorem advance_keeps_disk {verifier : VerifiedChain.System} (index : Nat) (readings : Readings)
    (task : VerifiedChain.Task) :
    (verifier.advance node index readings task).disk = verifier.disk := by
  obtain ⟨source, batchId, stage⟩ := task
  cases stage with
  | started =>
      simp only [VerifiedChain.System.advance]
      cases verifier.disk (node.proofPath batchId) <;> rfl
  | proofRead proofBytes =>
      simp only [VerifiedChain.System.advance]
      cases verifier.disk (node.tracePath batchId) <;> rfl
  | filesRead proofBytes traceBytes => rfl
  | returned result =>
      cases source with
      | broadcast => cases result <;> rfl
      | _ => rfl
  | done => rfl

theorem step_disk (action : Action) :
    (step validator node codec system action).verifier.disk =
      written node system.verifier.disk (system.writes codec action) := by
  cases action with
  | validator inner =>
      simp only [step, verifierAction]
      cases system.writes codec (.validator inner) with
      | none => rfl
      | some write => rfl
  | verifyBatch batchId => rfl
  | proofBroadcast message => rfl
  | pollEntry batchId =>
      simp only [step, verifierAction, VerifiedChain.step]
      split_ifs <;> rfl
  | verifierAdvance index readings =>
      simp only [step, verifierAction, VerifiedChain.step]
      cases found : system.verifier.tasks[index]? with
      | none => rfl
      | some task => exact advance_keeps_disk index readings task

omit [PolicyEngine Policy] in
theorem advance_tasks {system : ValidatorNode.System} {index : Nat} {task : ValidatorNode.Task}
    (event : Event) (found : system.tasks[index]? = some task) :
    (∃ proof timestamp, task.stage = .saved proof timestamp ∧
      (system.advance validator index task event).tasks =
        system.tasks.set index { task with stage := .recorded }) ∨
    (system.advance validator index task event).tasks =
      system.tasks.set index { task with stage := nextStage validator task event } := by
  rcases ValidatorRuns.advance_cases event found with
    ⟨proof, timestamp, _, saved, result⟩ | ⟨_, result⟩ | ⟨ended, result⟩
  · rw [result]
    exact .inl ⟨proof, timestamp, saved, rfl⟩
  · rw [result]
    exact .inr rfl
  · rw [result, ValidatorRuns.next_stage_ended event ended]
    exact .inr (set_found found).symm

theorem advance_delivered {index : Nat} {event : Event} (roundTrips : RoundTrips node codec)
    (proves : ∀ task trace proof timestamp, system.validator.tasks[index]? = some task →
      task.stage = .executed trace → event = .prove (.returned (.ok proof)) timestamp →
      ProofOf trace proof ∧ ∀ sp1Ms, Accepts node.sdk sp1Ms proof trace)
    (names : OwnNames system.validator) (delivered : Delivered node codec system) :
    Delivered node codec
      (step validator node codec system (.validator (.advance index event))) := by
  intro other changed held
  rw [step_disk]
  simp only [step, ValidatorNode.step] at held
  cases found : system.validator.tasks[index]? with
  | none =>
      simp only [Exchange.writes, found, Option.bind_none, written] at held ⊢
      exact delivered other changed held
  | some task =>
      simp only [Exchange.writes, found, Option.bind_some] at held ⊢
      have own := delivered index task found
      have next : Delivers node codec
          (written node system.verifier.disk (fileWrite codec task event))
          { task with stage := nextStage validator task event } :=
        next_stage_delivers event roundTrips
          (fun trace proof timestamp => proves task trace proof timestamp found) own
      have elsewhere (untouched : other ≠ index)
          (listed : system.validator.tasks[other]? = some changed) :
          Delivers node codec
            (written node system.verifier.disk (fileWrite codec task event)) changed := by
        have apart : changed.batchId ≠ task.batchId := fun same =>
          untouched (names.distinct other index changed task listed found same)
        have files := other_files_kept event own (names.plain other changed listed)
          (names.plain index task found) apart
        exact delivers_congr files (delivered other changed listed)
      rcases @advance_tasks _ validator _ _ _ event found with
        ⟨proof, timestamp, saved, moved⟩ | moved
      · rw [moved, List.getElem?_set] at held
        split_ifs at held with same inside
        · cases held
          have stored : ValidFiles node system.verifier.disk task.batchId := by
            rw [Delivers, saved] at own
            exact own
          have quiet : fileWrite codec task event = none := by
            cases event with
            | write outcome => cases outcome <;> simp [fileWrite, saved]
            | tear count => simp [fileWrite, saved]
            | _ => rfl
          rw [quiet]
          exact stored
        · exact elsewhere (Ne.symm same) held
      · rw [moved, List.getElem?_set] at held
        split_ifs at held with same inside
        · cases held
          exact next
        · exact elsewhere (Ne.symm same) held

theorem step_delivered {action : Action} (roundTrips : RoundTrips node codec)
    (dependable : Dependable validator.hashBytes guestMode ⟨node.sdk, sp1Prove⟩)
    (honest : ProvedWith validator sp1Prove system action)
    (names : OwnNames system.validator) (delivered : Delivered node codec system) :
    Delivered node codec (step validator node codec system action) := by
  cases action with
  | validator inner =>
      cases inner with
      | submit params now =>
          intro index task held
          rw [step_disk]
          apply delivered index task
          simp only [step, ValidatorNode.step] at held
          split at held <;> exact held
      | checkAndSeal now =>
          intro index task held
          rw [step_disk]
          simp only [step, ValidatorNode.step] at held
          split at held
          · exact delivered index task held
          · rw [List.getElem?_append] at held
            split_ifs at held with inside
            · exact delivered index task held
            · have member := List.mem_of_getElem? held
              rw [List.mem_singleton.mp member]
              trivial
      | advance index event =>
          apply advance_delivered roundTrips _ names delivered
          intro task trace proof timestamp found stage proving
          rw [proving] at honest
          obtain ⟨provingTimeMs, generatedAt, proved⟩ := honest task trace found stage
          exact ⟨prove_proof_of proved, proved_accepted dependable proved⟩
  | _ =>
      intro index task held
      rw [step_disk]
      exact delivered index task held

def Recorded (system : Exchange) (batchId : String) : Prop :=
  ∃ (index : Nat) (task : ValidatorNode.Task), system.validator.tasks[index]? = some task ∧
    task.batchId = batchId ∧ task.stage = .recorded

theorem recorded_of_record {batchSize : Nat} {record : ValidatorNode.ProofRecord}
    (sealing : Sealing batchSize system.validator)
    (member : record ∈ system.validator.state.proofs) : Recorded system record.batchId := by
  have listed : record.batchId ∈ ValidatorRuns.recordedIds system.validator :=
    List.mem_map_of_mem member
  rw [sealing.records.mem_iff, List.mem_map] at listed
  obtain ⟨task, kept, named⟩ := listed
  obtain ⟨known, stage⟩ := List.mem_filter.mp kept
  obtain ⟨index, found⟩ := List.mem_iff_getElem?.mp known
  refine ⟨index, task, found, named, ?_⟩
  cases held : task.stage with
  | recorded => rfl
  | _ => simp [ValidatorRuns.isRecorded, ValidatorRuns.Stage.isRecorded, held] at stage

theorem recorded_kept {batchId : String} (action : Action) (recorded : Recorded system batchId) :
    Recorded (step validator node codec system action) batchId := by
  obtain ⟨index, task, found, named, stage⟩ := recorded
  have bound := (List.getElem?_eq_some_iff.mp found).1
  cases action with
  | validator inner =>
      cases inner with
      | submit params now =>
          refine ⟨index, task, ?_, named, stage⟩
          simp only [step, ValidatorNode.step]
          split <;> exact found
      | checkAndSeal now =>
          refine ⟨index, task, ?_, named, stage⟩
          simp only [step, ValidatorNode.step]
          split
          · exact found
          · rw [List.getElem?_append_left bound]
            exact found
      | advance other event =>
          refine ⟨index, task, ?_, named, stage⟩
          simp only [step, ValidatorNode.step]
          cases moving : system.validator.tasks[other]? with
          | none => exact found
          | some moved =>
              simp only
              by_cases same : other = index
              · rw [same, found] at moving
                cases moving
                rcases @ValidatorRuns.advance_cases _ validator _ _ _ event found with
                  ⟨_, _, _, saved, _⟩ | ⟨progress, _⟩ | ⟨_, result⟩
                · rw [stage] at saved
                  cases saved
                · rw [stage] at progress
                  cases progress
                · rw [same, result]
                  exact found
              · rcases @advance_tasks _ validator _ _ _ event moving with
                  ⟨_, _, _, tasks⟩ | tasks
                · rw [tasks, List.getElem?_set_ne same]
                  exact found
                · rw [tasks, List.getElem?_set_ne same]
                  exact found
  | _ => exact ⟨index, task, found, named, stage⟩

theorem recorded_files_kept {batchId : String} (action : Action)
    (names : OwnNames system.validator) (delivered : Delivered node codec system)
    (recorded : Recorded system batchId) :
    SameFiles node system.verifier.disk (step validator node codec system action).verifier.disk
      batchId := by
  obtain ⟨index, task, found, named, stage⟩ := recorded
  rw [step_disk]
  cases action with
  | validator inner =>
      cases inner with
      | advance other event =>
          cases moving : system.validator.tasks[other]? with
          | none =>
              simp only [Exchange.writes, moving, Option.bind_none]
              exact ⟨rfl, rfl⟩
          | some moved =>
              simp only [Exchange.writes, moving, Option.bind_some]
              by_cases same : task.batchId = moved.batchId
              · have place := names.distinct index other task moved found moving same
                rw [place, moving] at found
                cases found
                have quiet : fileWrite codec task event = none := by
                  cases event with
                  | write outcome => cases outcome <;> simp [fileWrite, stage]
                  | tear count => simp [fileWrite, stage]
                  | _ => rfl
                rw [quiet]
                exact ⟨rfl, rfl⟩
              · rw [← named]
                exact other_files_kept event (delivered other moved moving)
                  (names.plain index task found) (names.plain other moved moving) same
      | _ => exact ⟨rfl, rfl⟩
  | _ => exact ⟨rfl, rfl⟩

end Exchange

/-! ## The verifier's half -/

/-- Where a verification of delivered files stands after this many of its awaits. -/
def Stands (node : VerifierNode) (verifier : VerifiedChain.System) (batchId : String) :
    Nat → VerifiedChain.Stage → Prop
  | 0, .started => True
  | 1, .proofRead proofBytes => verifier.disk (node.proofPath batchId) = .ok proofBytes
  | 2, .filesRead proofBytes traceBytes =>
      verifier.disk (node.proofPath batchId) = .ok proofBytes ∧
        verifier.disk (node.tracePath batchId) = .ok traceBytes
  | 3, .returned (.ok verified) =>
      verified.batchId = batchId ∧ batchId ∈ verifiedIds verifier.state
  | _ + 4, .done => batchId ∈ verifiedIds verifier.state
  | _, _ => False

section Verifier

variable {node : VerifierNode} {before after : VerifiedChain.System} {batchId : String}

theorem stands_mono {awaits : Nat} {stage : VerifiedChain.Stage}
    (same : SameFiles node before.disk after.disk batchId)
    (more : ∀ other ∈ verifiedIds before.state, other ∈ verifiedIds after.state)
    (stands : Stands node before batchId awaits stage) :
    Stands node after batchId awaits stage := by
  unfold Stands at stands ⊢
  split at stands
  · exact trivial
  · exact same.1.symm.trans stands
  · exact ⟨same.1.symm.trans stands.1, same.2.symm.trans stands.2⟩
  · exact ⟨stands.1, more _ stands.2⟩
  · exact more _ stands
  · exact stands.elim

theorem stands_advance {index awaits : Nat} {source : VerifiedChain.Source}
    {stage : VerifiedChain.Stage} (readings : Readings)
    (valid : ValidFiles node before.disk batchId)
    (found : before.tasks[index]? = some ⟨source, batchId, stage⟩)
    (stands : Stands node before batchId awaits stage) :
    ∃ next, (VerifiedChain.step node before (.advance index readings)).tasks[index]? =
        some ⟨source, batchId, next⟩ ∧
      Stands node (VerifiedChain.step node before (.advance index readings)) batchId
        (awaits + 1) next := by
  have bound := (List.getElem?_eq_some_iff.mp found).1
  have same : SameFiles node before.disk
      (VerifiedChain.step node before (.advance index readings)).disk batchId := by
    simp only [VerifiedChain.step, found, advance_keeps_disk]
    exact ⟨rfl, rfl⟩
  have more := @verified_ids_grow node before (.advance index readings)
  obtain ⟨⟨proofBytes, proofRead⟩, ⟨traceBytes, traceRead⟩⟩ := valid_files_readable valid
  unfold Stands at stands
  split at stands
  case h_1 =>
    refine ⟨.proofRead proofBytes, ?_, same.1.symm.trans proofRead⟩
    simp only [VerifiedChain.step, found, VerifiedChain.System.advance, proofRead,
      VerifiedChain.System.setStage, List.getElem?_set_self bound]
  case h_2 bytes =>
    refine ⟨.filesRead bytes traceBytes, ?_, same.1.symm.trans stands,
      same.2.symm.trans traceRead⟩
    simp only [VerifiedChain.step, found, VerifiedChain.System.advance, traceRead,
      VerifiedChain.System.setStage, List.getElem?_set_self bound]
  case h_3 bytes others =>
    have verified := read_files_verified readings found stands.1 stands.2 valid
    obtain ⟨proof, trace, ⟨_, _, sameProof, sameTrace, decoded, parsed⟩, named, accepted⟩ := valid
    cases stands.1.symm.trans sameProof
    cases stands.2.symm.trans sameTrace
    have returned : verifyBytes node readings bytes others before.state =
        (before.state.record (attested node readings proof),
          .ok (attested node readings proof)) :=
      verify_bytes_ok_iff.mpr ⟨proof, trace, decoded, parsed,
        verify_proof_of_accepts node readings before.state
          (accepted readings.sp1Ms)⟩
    refine ⟨.returned (.ok (attested node readings proof)), ?_, named, verified⟩
    simp only [VerifiedChain.step, found, VerifiedChain.System.advance, returned,
      VerifiedChain.System.setStage, List.getElem?_set_self bound]
  case h_4 verified =>
    refine ⟨.done, ?_, more _ stands.2⟩
    have tasks : (before.finish ⟨source, batchId, .returned (.ok verified)⟩
        (.ok verified)).tasks = before.tasks := by
      cases source <;> rfl
    simp only [VerifiedChain.step, found, VerifiedChain.System.advance,
      VerifiedChain.System.setStage, tasks, List.getElem?_set_self bound]
  case h_5 =>
    refine ⟨.done, ?_, more _ stands⟩
    simp only [VerifiedChain.step, found, VerifiedChain.System.advance]
  case h_6 => exact stands.elim

theorem other_step_keeps_task {index : Nat} {inner : VerifiedChain.Action}
    {task : VerifiedChain.Task} (foreign : ∀ readings, inner ≠ .advance index readings)
    (found : before.tasks[index]? = some task) :
    (VerifiedChain.step node before inner).tasks[index]? = some task := by
  have bound := (List.getElem?_eq_some_iff.mp found).1
  have started (source : VerifiedChain.Source) (other : String) (state : VerifierState) :
      ({ before with state := state }.start source other).tasks[index]? = some task := by
    rw [VerifiedChain.System.start, List.getElem?_append_left bound]
    exact found
  cases inner with
  | setFile name content => exact found
  | verifyBatch other => exact started .rpc other before.state
  | proofBroadcast message => exact started .broadcast message.batchId _
  | pollEntry other =>
      rw [VerifiedChain.step]
      split_ifs
      · exact found
      · exact started .poll other before.state
  | advance other readings =>
      have apart : other ≠ index := by
        intro same
        exact foreign readings (by rw [same])
      simp only [VerifiedChain.step]
      cases moving : before.tasks[other]? with
      | none => exact found
      | some moved =>
          have moves : ∃ replacement, (before.advance node other readings moved).tasks =
              before.tasks.set other replacement := by
            obtain ⟨source, batchId, stage⟩ := moved
            cases stage with
            | started =>
                simp only [VerifiedChain.System.advance]
                cases before.disk (node.proofPath batchId) <;> exact ⟨_, rfl⟩
            | proofRead proofBytes =>
                simp only [VerifiedChain.System.advance]
                cases before.disk (node.tracePath batchId) <;> exact ⟨_, rfl⟩
            | filesRead proofBytes traceBytes => exact ⟨_, rfl⟩
            | returned result =>
                cases source with
                | broadcast => cases result <;> exact ⟨_, rfl⟩
                | _ => exact ⟨_, rfl⟩
            | done => exact ⟨_, (set_found moving).symm⟩
          obtain ⟨replacement, tasks⟩ := moves
          simp only [tasks, List.getElem?_set_ne apart]
          exact found

end Verifier

/-! ## Runs -/

def isAwaitOf (index : Nat) : Action → Bool
  | .verifierAdvance other _ => other == index
  | _ => false

section Runs

variable {Policy : Type} [PolicyEngine Policy] {validator : Validator Policy}
variable {node : VerifierNode} {codec : Codec} {system : Exchange} {disk : Disk}
variable {actions : List Action} {sp1Prove : Stdin → Except String (List UInt8)}
variable {guestMode : OverflowMode}

theorem step_stands {index awaits : Nat} {source : VerifiedChain.Source} {batchId : String}
    {stage : VerifiedChain.Stage} (action : Action) (names : OwnNames system.validator)
    (delivered : Delivered node codec system) (recorded : Recorded system batchId)
    (found : system.verifier.tasks[index]? = some ⟨source, batchId, stage⟩)
    (stands : Stands node system.verifier batchId awaits stage) :
    ∃ next, (step validator node codec system action).verifier.tasks[index]? =
        some ⟨source, batchId, next⟩ ∧
      Stands node (step validator node codec system action).verifier batchId
        (awaits + [action].countP (isAwaitOf index)) next := by
  have files : SameFiles node system.verifier.disk
      (step validator node codec system action).verifier.disk batchId :=
    recorded_files_kept action names delivered recorded
  have passed (quiet : [action].countP (isAwaitOf index) = 0)
      (foreign : ∀ inner, verifierAction codec system action = some inner →
        ∀ readings, inner ≠ .advance index readings) :
      ∃ next, (step validator node codec system action).verifier.tasks[index]? =
          some ⟨source, batchId, next⟩ ∧
        Stands node (step validator node codec system action).verifier batchId
          (awaits + [action].countP (isAwaitOf index)) next := by
    rw [quiet, Nat.add_zero]
    refine ⟨stage, ?_, stands_mono files ?_ stands⟩
    · simp only [step]
      cases chosen : verifierAction codec system action with
      | none => exact found
      | some inner => exact other_step_keeps_task (foreign inner chosen) found
    · intro other member
      simp only [step]
      cases verifierAction codec system action with
      | none => exact member
      | some inner => exact verified_ids_grow inner other member
  cases action with
  | verifierAdvance other readings =>
      by_cases own : other = index
      · obtain ⟨place, task, held, named, ended⟩ := recorded
        have valid : ValidFiles node system.verifier.disk batchId := by
          have delivers := delivered place task held
          rw [Delivers, ended] at delivers
          rw [← named]
          exact delivers
        obtain ⟨next, moved, later⟩ := stands_advance readings valid found stands
        rw [own]
        have counted : [Action.verifierAdvance index readings].countP (isAwaitOf index) = 1 := by
          simp [isAwaitOf]
        rw [counted]
        exact ⟨next, moved, later⟩
      · apply passed
        · simp [isAwaitOf, own]
        · intro inner chosen others same
          cases chosen
          cases same
          exact own rfl
  | validator inner =>
      apply passed rfl
      intro chosen isWrite readings same
      simp only [verifierAction, Option.map_eq_some_iff] at isWrite
      obtain ⟨write, _, made⟩ := isWrite
      rw [same] at made
      cases made
  | _ =>
      apply passed rfl
      intro chosen request readings same
      cases request
      cases same

theorem tasks_bounded (count : Nat) :
    (stateAfter (step validator node codec) (.init disk) actions count).validator.tasks.length ≤
      actions.length := by
  have free : EachStep (step validator node codec) (.init disk) actions fun _ _ => True :=
    fun _ _ _ => trivial
  have counted := @history_of_each_step _ _ (step validator node codec) (.init disk) actions _
    (fun past state => state.validator.tasks.length ≤ past.length) (Nat.le_refl 0) ?_ free count
  · have taken := List.length_take_le' count actions
    omega
  · intro past state action fewer _
    rw [List.length_append, List.length_singleton]
    cases action with
    | validator inner =>
        cases inner with
        | submit params now =>
            simp only [step, ValidatorNode.step]
            split <;> exact Nat.le_succ_of_le fewer
        | checkAndSeal now =>
            simp only [step, ValidatorNode.step]
            split
            · exact Nat.le_succ_of_le fewer
            · rw [List.length_append, List.length_singleton]
              exact Nat.succ_le_succ fewer
        | advance index event =>
            simp only [step, ValidatorNode.step]
            cases found : state.validator.tasks[index]? with
            | none => exact Nat.le_succ_of_le fewer
            | some task =>
                simp only
                rcases @advance_tasks _ validator _ _ _ event found with ⟨_, _, _, tasks⟩ | tasks
                · rw [tasks, List.length_set]
                  exact Nat.le_succ_of_le fewer
                · rw [tasks, List.length_set]
                  exact Nat.le_succ_of_le fewer
    | _ => exact Nat.le_succ_of_le fewer

theorem delivered_always (roundTrips : RoundTrips node codec)
    (dependable : Dependable validator.hashBytes guestMode ⟨node.sdk, sp1Prove⟩)
    (honest : EachStep (step validator node codec) (.init disk) actions
      (ProvedWith validator sp1Prove)) (short : actions.length < 2 ^ 64) :
    Always (step validator node codec) (.init disk) actions fun system =>
      Delivered node codec system ∧ OwnNames system.validator := by
  have names : Always (step validator node codec) (.init disk) actions
      fun system => OwnNames system.validator := by
    intro count
    have sealing := @exchange_sealing _ _ validator node codec disk actions count
    have bounded := @tasks_bounded _ _ validator node codec disk actions count
    exact own_names_of_sealing sealing (Nat.lt_of_le_of_lt bounded short)
  have initially : Delivered node codec (.init disk) := by
    intro index task held
    cases held
  have allowed : EachStep (step validator node codec) (.init disk) actions
      fun system action =>
        ProvedWith validator sp1Prove system action ∧ OwnNames system.validator :=
    fun count action taken => ⟨honest count action taken, names count⟩
  have delivered := always_of_each_step initially
    (fun system action before both =>
      step_delivered roundTrips dependable both.1 both.2 before) allowed
  intro count
  exact ⟨delivered count, names count⟩

end Runs

/-- Over a dependable SP1, in every interleaving of the two nodes: once the validator lists
a record of a batch, its files are valid for good, and a verification of it that has not
read anything yet follows its awaits one by one to an attestation. After the third it has
been answered with this batch, which is attested from then on; no error can come back. -/
theorem recorded_batches_can_be_verified {Policy : Type} [PolicyEngine Policy]
    (validator : Validator Policy) (node : VerifierNode) (codec : Codec) (disk : Disk)
    (actions : List Action) (guestMode : OverflowMode)
    (sp1Prove : Stdin → Except String (List UInt8)) (roundTrips : RoundTrips node codec)
    (dependable : Dependable validator.hashBytes guestMode ⟨node.sdk, sp1Prove⟩)
    (honest : EachStep (step validator node codec) (.init disk) actions
      (ProvedWith validator sp1Prove)) (short : actions.length < 2 ^ 64)
    (first : Nat) (record : ValidatorNode.ProofRecord)
    (listed : record ∈
      (stateAfter (step validator node codec) (.init disk) actions first).validator.state.proofs)
    (further : Nat) :
    ValidFiles node (stateAfter (step validator node codec) (.init disk) actions
      (first + further)).verifier.disk record.batchId ∧
    ∀ index source,
      (stateAfter (step validator node codec) (.init disk) actions first).verifier.tasks[index]? =
        some ⟨source, record.batchId, .started⟩ →
      ∃ stage,
        (stateAfter (step validator node codec) (.init disk) actions
          (first + further)).verifier.tasks[index]? = some ⟨source, record.batchId, stage⟩ ∧
        Stands node (stateAfter (step validator node codec) (.init disk) actions
          (first + further)).verifier record.batchId
          (((actions.drop first).take further).countP (isAwaitOf index)) stage := by
  have always := delivered_always roundTrips dependable honest short
  have sealing := @exchange_sealing _ _ validator node codec disk actions first
  have start := recorded_of_record sealing listed
  have onward : EachStep (step validator node codec)
      (stateAfter (step validator node codec) (.init disk) actions first) (actions.drop first)
      fun system _ => Delivered node codec system ∧ OwnNames system.validator :=
    each_step_drop first fun count _ _ => always count
  have kept (system : Exchange) (action : Action) (held : Recorded system record.batchId)
      (_ : Delivered node codec system ∧ OwnNames system.validator) :
      Recorded (step validator node codec system action) record.batchId :=
    recorded_kept action held
  have recordedAlways : Always (step validator node codec)
      (stateAfter (step validator node codec) (.init disk) actions first) (actions.drop first)
      (fun system => Recorded system record.batchId) :=
    always_of_each_step start kept onward
  rw [state_after_add]
  constructor
  · obtain ⟨index, task, held, named, ended⟩ := recordedAlways further
    have delivers := (always (first + further)).1 index task (by rw [state_after_add]; exact held)
    rw [Delivers, ended, state_after_add, named] at delivers
    exact delivers
  · intro index source waiting
    have reached := @history_of_each_step _ _ (step validator node codec)
      (stateAfter (step validator node codec) (.init disk) actions first) (actions.drop first)
      (fun system _ => Delivered node codec system ∧ OwnNames system.validator)
      (fun past system => Recorded system record.batchId ∧ ∃ stage,
        system.verifier.tasks[index]? = some ⟨source, record.batchId, stage⟩ ∧
          Stands node system.verifier record.batchId (past.countP (isAwaitOf index)) stage)
      ⟨start, .started, waiting, trivial⟩ ?_ onward further
    · exact reached.2
    · intro past system action before allowed
      obtain ⟨held, stage, found, stands⟩ := before
      refine ⟨recorded_kept action held, ?_⟩
      rw [List.countP_append]
      exact step_stands action allowed.2 allowed.1 held found stands

section Samples

open CatalystSvm.ValidatorNode CatalystSvm.ValidatorRuns CatalystSvm.CommonMerkle

instance encodableU8 : Encodable UInt8 :=
  Encodable.ofLeftInverse UInt8.toNat UInt8.ofNat fun _ => UInt8.ofNat_toNat

instance encodableTransactionId : Encodable TransactionId :=
  Encodable.ofLeftInverse TransactionId.asStr (fun text => ⟨text⟩) fun _ => rfl

instance encodableTraceEntry : Encodable TraceEntry :=
  Encodable.ofLeftInverse
    (fun entry => (entry.txIdx, entry.txId, entry.preStateHash, entry.instruction,
      entry.accountsRead, entry.accountsWritten, entry.postStateHash, entry.computeUsed,
      entry.success, entry.error))
    (fun ⟨txIdx, txId, preStateHash, instruction, accountsRead, accountsWritten, postStateHash,
      computeUsed, success, error⟩ => ⟨txIdx, txId, preStateHash, instruction, accountsRead,
        accountsWritten, postStateHash, computeUsed, success, error⟩) fun _ => rfl

instance encodableTrace : Encodable ExecutionTrace :=
  Encodable.ofLeftInverse
    (fun trace => (trace.batchId, trace.entries, trace.stateRootPre, trace.stateRootPost,
      trace.traceHash, trace.totalCompute, trace.successCount, trace.failureCount))
    (fun ⟨batchId, entries, stateRootPre, stateRootPost, traceHash, totalCompute, successCount,
      failureCount⟩ => ⟨batchId, entries, stateRootPre, stateRootPost, traceHash, totalCompute,
        successCount, failureCount⟩) fun _ => rfl

instance encodableCommitment : Encodable ProofCommitment :=
  Encodable.ofLeftInverse
    (fun commitment => (commitment.batchHash, commitment.traceHash, commitment.stateRootPre,
      commitment.stateRootPost, commitment.totalCompute, commitment.txCount))
    (fun ⟨batchHash, traceHash, stateRootPre, stateRootPost, totalCompute, txCount⟩ =>
      ⟨batchHash, traceHash, stateRootPre, stateRootPost, totalCompute, txCount⟩) fun _ => rfl

instance encodableProof : Encodable Proof :=
  Encodable.ofLeftInverse
    (fun proof => (proof.batchId, proof.proofData, proof.proofHash, proof.commitment,
      proof.generatedAt, proof.provingTimeMs, proof.proofSizeBytes))
    (fun ⟨batchId, proofData, proofHash, commitment, generatedAt, provingTimeMs,
      proofSizeBytes⟩ => ⟨batchId, proofData, proofHash, commitment, generatedAt, provingTimeMs,
        proofSizeBytes⟩) fun _ => rfl

def countedCodec : Codec where
  serializeProof proof := List.replicate (Encodable.encode proof) 1
  serializeTrace trace := List.replicate (Encodable.encode trace) 1

def countedNode : VerifierNode where
  sdk := (replaySp1 sampleDigest .wrapping).sdk
  hashBytes := sampleDigest
  proofDir := .under ["proofs"]
  nodeId := "verifier_00000001"
  deserializeProof proofBytes :=
    match Encodable.decode proofBytes.length with
    | some proof => .ok proof
    | none => .error "unexpected end of file"
  parseTrace traceBytes :=
    match Encodable.decode traceBytes.length with
    | some trace => .ok trace
    | none => .error "EOF while parsing a value"

theorem counted_round_trips : RoundTrips countedNode countedCodec where
  proof proof := by
    simp only [countedNode, countedCodec, List.length_replicate, Encodable.encodek]
  trace trace := by
    simp only [countedNode, countedCodec, List.length_replicate, Encodable.encodek]

def countedOutcome : Except ProveError Proof :=
  ProverInputs.prove sampleDigest (replaySp1 sampleDigest .wrapping).prove 0 0 polledTrace
    polledTask.transactions

def countedProof : Proof :=
  match countedOutcome with
  | .ok proof => proof
  | .error _ => paidProof "" paidCommitment

/-- The validator runs to its record, then a client asks for the batch. -/
def recordedRun : List ProofPolling.Action :=
  [.validator (.submit (sampleParams "alice") 0), .validator (.checkAndSeal 0),
    .validator (.advance 0 (.execute 0 0)),
    .validator (.advance 0 (.prove (.returned (.ok countedProof)) 0)), .validator writeFile,
    .validator writeFile, .validator (.advance 0 .record), .verifyBatch "batch_000001",
    .verifierAdvance 0 sampleReadings, .verifierAdvance 0 sampleReadings,
    .verifierAdvance 0 sampleReadings]

def recordedState (count : Nat) : Exchange :=
  stateAfter (ProofPolling.step eagerValidator countedNode countedCodec) (.init emptyDirectory)
    recordedRun count

theorem counted_outcome : countedOutcome = .ok countedProof := by
  have returned : countedOutcome.toOption.isSome = true := by decide +kernel
  unfold countedProof
  cases outcome : countedOutcome with
  | error reason =>
      rw [outcome] at returned
      cases returned
  | ok proof => rfl

theorem recorded_run_honest :
    EachStep (ProofPolling.step eagerValidator countedNode countedCodec) (.init emptyDirectory)
      recordedRun (ProvedWith eagerValidator (replaySp1 sampleDigest .wrapping).prove) := by
  intro count action taken
  by_cases proving : count = 3
  · subst proving
    cases taken
    intro task trace found stage
    have known : (recordedState 3).validator.tasks[0]?.map (fun task =>
        (task.transactions, executedTrace task)) =
          some (polledTask.transactions, some polledTrace) := by
      decide +kernel
    rw [recordedState, found, Option.map_some, executedTrace, stage, Option.some.injEq,
      Prod.mk.injEq, Option.some.injEq] at known
    rw [known.1, known.2]
    exact ⟨0, 0, counted_outcome⟩
  · have quiet : ∀ other ∈ recordedRun.eraseIdx 3, ∀ system,
        ProvedWith eagerValidator (replaySp1 sampleDigest .wrapping).prove system other := by
      simp [recordedRun, ProvedWith, writeFile]
    exact quiet action (List.mem_eraseIdx_iff_getElem?.mpr ⟨count, proving, taken⟩) _

end Samples

theorem recorded_batch_is_verified_on_request :
    ∃ verified,
      (recordedState 11).verifier.tasks[0]? =
        some ⟨.rpc, "batch_000001", .returned (.ok verified)⟩ ∧
      verified.batchId = "batch_000001" := by
  have recorded : (recordedState 8).validator.state.proofs.map ValidatorNode.ProofRecord.batchId =
      ["batch_000001"] := by
    decide +kernel
  obtain ⟨record, filed, titled⟩ := List.map_eq_singleton_iff.mp recorded
  have listed : record ∈ (recordedState 8).validator.state.proofs := by simp [filed]
  have waiting : (recordedState 8).verifier.tasks[0]? =
      some ⟨.rpc, "batch_000001", .started⟩ := rfl
  unfold recordedState at listed waiting
  have general := recorded_batches_can_be_verified ValidatorRuns.eagerValidator countedNode
    countedCodec emptyDirectory recordedRun .wrapping
    (replaySp1 CommonMerkle.sampleDigest .wrapping).prove counted_round_trips
    (replay_sp1_dependable _ _) recorded_run_honest (by decide) 8 record listed 3
  rw [titled] at general
  obtain ⟨stage, found, stands⟩ := general.2 0 .rpc waiting
  have awaited : ((recordedRun.drop 8).take 3).countP (isAwaitOf 0) = 3 := by decide
  rw [awaited] at stands
  cases stage with
  | returned result =>
      cases result with
      | ok verified => exact ⟨verified, found, stands.1⟩
      | error reason => exact stands.elim
  | _ => exact stands.elim

end CatalystSvm.ProofDelivery
