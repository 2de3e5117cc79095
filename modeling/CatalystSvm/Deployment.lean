import CatalystSvm.AttestationOrigins
import CatalystSvm.ValidatorService
import CatalystSvm.VerifierService

/-!
# Both nodes and all their clients

A validator and a verifier node over one proof directory, each behind its own
connections. The nodes share nothing but the files that the validator writes:
each of its writes reaches the verifier as a file that changes.
-/

namespace CatalystSvm.Deployment

open CatalystSvm.BatchPolicy CatalystSvm.RpcMessages CatalystSvm.ProofAttestation
open CatalystSvm.ProofPolling hiding Action step
open CatalystSvm.AttestationOrigins
open CatalystSvm.ValidatorNode (Validator)
open CatalystSvm.ValidatorRuns (Sealing txIds)
open CatalystSvm.Library.PathNames (Plain)
open CatalystSvm.ValidatorService (acknowledged)
open CatalystSvm.VerifierService (broadcastOf batchIdParam limitParam taskNames)
open CatalystSvm.Library.Runs CatalystSvm.Library.Segments
open CatalystSvm.Library.Connections hiding Action step

set_option autoImplicit false

structure Nodes (Policy : Type) where
  validator : Validator Policy
  validatorParser : ValidatorService.Parser
  node : VerifierNode
  nodeParser : VerifierService.Parser
  codec : Codec

structure State where
  validator : Service ValidatorNode.System String ValidatorService.Job RpcResponse
  verifier : Service VerifiedChain.System String VerifierService.Job RpcResponse

def State.init (disk : Disk) : State where
  validator := .init .init
  verifier := .init (.init disk)

def State.exchange (state : State) : Exchange where
  validator := state.validator.backend
  verifier := state.verifier.backend

inductive Action where
  | validator
      (action : Library.Connections.Action String ValidatorService.Input ValidatorService.Event)
  | verifier (action : Library.Connections.Action String Readings VerifierService.Event)

section Transitions

variable {Policy : Type} [PolicyEngine Policy] (nodes : Nodes Policy)

def validatorMove (state : State)
    (action : Library.Connections.Action String ValidatorService.Input ValidatorService.Event) :
    Option ValidatorNode.Action :=
  (ValidatorService.planner nodes.validator nodes.validatorParser).moved state.validator action

def verifierMove (state : State)
    (action : Library.Connections.Action String Readings VerifierService.Event) :
    Option VerifiedChain.Action :=
  (VerifierService.planner nodes.node nodes.nodeParser).moved state.verifier action

def validatorStep := Library.Connections.step
  (ValidatorService.server nodes.validator nodes.validatorParser)

def verifierStep := Library.Connections.step
  (VerifierService.server nodes.node nodes.nodeParser)

def writeOf (state : State)
    (action : Library.Connections.Action String ValidatorService.Input ValidatorService.Event) :
    Option FileWrite :=
  (validatorMove nodes state action).bind fun move =>
    state.exchange.writes nodes.codec (.validator move)

def step (state : State) : Action → State
  | .validator action =>
      { validator := validatorStep nodes state.validator action
        verifier :=
          match writeOf nodes state action with
          | some write =>
              verifierStep nodes state.verifier (.move (.setFile write.name (.ok write.content)))
          | none => state.verifier }
  | .verifier action => { state with verifier := verifierStep nodes state.verifier action }

def asExchange : VerifiedChain.Action → Option ProofPolling.Action
  | .setFile _ _ => none
  | .verifyBatch batchId => some (.verifyBatch batchId)
  | .proofBroadcast message => some (.proofBroadcast message)
  | .pollEntry batchId => some (.pollEntry batchId)
  | .advance task readings => some (.verifierAdvance task readings)

def exchangeAction (state : State) : Action → Option ProofPolling.Action
  | .validator action => (validatorMove nodes state action).map .validator
  | .verifier action => (verifierMove nodes state action).bind asExchange

end Transitions

/-- Nobody but the validator writes to the directory. -/
def Undisturbed : Action → Prop
  | .verifier (.move (.setFile _ _)) => False
  | _ => True

structure Sound {Policy : Type} [PolicyEngine Policy] (nodes : Nodes Policy) (state : State)
    (action : Action) : Prop where
  undisturbed : Undisturbed action
  honest : ∀ move, exchangeAction nodes state action = some move →
    ProvesOwnTrace nodes.validator state.exchange move

/-! ## The nodes under their connections -/

section Nodes

variable {Policy : Type} [PolicyEngine Policy] {nodes : Nodes Policy} {state : State}

theorem plan_writes_nothing {node : VerifierNode} {system : VerifiedChain.System}
    {job : VerifierService.Job} {readings : Readings} {name : String}
    {content : Except String (List UInt8)} :
    (VerifierService.plan node system job readings).1 ≠ some (.setFile name content) := by
  cases job with
  | invalid reason => simp [VerifierService.plan]
  | announce message => simp [VerifierService.plan]
  | broadcasting task =>
      simp only [VerifierService.plan, VerifierService.awaitVerification]
      split <;> simp
  | verifying id task =>
      simp only [VerifierService.plan, VerifierService.awaitVerification]
      split <;> simp
  | dispatch request =>
      simp only [VerifierService.plan, VerifierService.handleRpc]
      split_ifs
      · cases batchIdParam request <;> simp
      · simp
      · simp
      · cases batchIdParam request <;> simp
      · simp

omit [PolicyEngine Policy] in
theorem verifier_move_writes_nothing
    {action : Library.Connections.Action String Readings VerifierService.Event}
    {name : String} {content : Except String (List UInt8)}
    (undisturbed : Undisturbed (.verifier action)) :
    verifierMove nodes state action ≠ some (.setFile name content) := by
  cases action with
  | work index input =>
      simp only [verifierMove, Planner.moved]
      split
      · exact plan_writes_nothing
      · simp
  | move event =>
      cases event with
      | setFile other bytes => exact undisturbed.elim
      | pollEntry batchId =>
          simp [verifierMove, Planner.moved, VerifierService.planner, VerifierService.ownAction]
      | pollAdvance task readings =>
          simp only [verifierMove, Planner.moved, VerifierService.planner,
            VerifierService.ownAction]
          split <;> simp
  | _ => simp [verifierMove, Planner.moved]

omit [PolicyEngine Policy] in
theorem verifier_step_backend (service : Service VerifiedChain.System String
      VerifierService.Job RpcResponse)
    (action : Library.Connections.Action String Readings VerifierService.Event) :
    (verifierStep nodes service action).backend =
      take (VerifiedChain.step nodes.node) service.backend
        ((VerifierService.planner nodes.node nodes.nodeParser).moved service action) :=
  step_backend _ service action

theorem validator_step_backend (service : Service ValidatorNode.System String
      ValidatorService.Job RpcResponse)
    (action : Library.Connections.Action String ValidatorService.Input
      ValidatorService.Event) :
    (validatorStep nodes service action).backend =
      take (ValidatorNode.step nodes.validator) service.backend
        ((ValidatorService.planner nodes.validator nodes.validatorParser).moved service action) :=
  step_backend _ service action

/-- Under the connections, the two nodes make the steps of their own exchange. -/
theorem step_exchange (nodes : Nodes Policy) (state : State) {action : Action}
    (undisturbed : Undisturbed action) :
    (step nodes state action).exchange =
      take (ProofPolling.step nodes.validator nodes.node nodes.codec) state.exchange
        (exchangeAction nodes state action) := by
  cases action with
  | validator action =>
      have own := @validator_step_backend _ _ nodes state.validator action
      cases moved : validatorMove nodes state action with
      | none =>
          rw [validatorMove] at moved
          rw [moved] at own
          simp only [step, State.exchange, own, writeOf, validatorMove, moved, Option.bind_none,
            exchangeAction, Option.map_none, take_none]
      | some move =>
          have written : writeOf nodes state action =
              state.exchange.writes nodes.codec (.validator move) := by
            rw [writeOf, moved, Option.bind_some]
          rw [exchangeAction, moved, Option.map_some, take_some]
          rw [validatorMove] at moved
          rw [moved] at own
          cases chosen : state.exchange.writes nodes.codec (.validator move) with
          | none =>
              rw [chosen] at written
              rw [State.exchange] at chosen
              simp only [step, State.exchange, own, written, take_some, ProofPolling.step,
                verifierAction, chosen, Option.map_none]
          | some write =>
              have told := @verifier_step_backend _ nodes state.verifier
                (.move (.setFile write.name (.ok write.content)))
              rw [chosen] at written
              rw [State.exchange] at chosen
              simp only [step, State.exchange, own, written, told, take_some, ProofPolling.step,
                verifierAction, chosen, Option.map_some, Planner.moved,
                VerifierService.planner, VerifierService.ownAction]
  | verifier action =>
      have own := @verifier_step_backend _ nodes state.verifier action
      cases moved : verifierMove nodes state action with
      | none =>
          rw [exchangeAction, moved, Option.bind_none, take_none]
          rw [verifierMove] at moved
          rw [moved] at own
          simp only [step, State.exchange, own, take_none]
      | some move =>
          cases move with
          | setFile name content =>
              exact absurd moved (verifier_move_writes_nothing undisturbed)
          | _ =>
              rw [exchangeAction, moved, Option.bind_some, asExchange, take_some]
              rw [verifierMove] at moved
              rw [moved] at own
              simp only [step, State.exchange, own, take_some, ProofPolling.step,
                verifierAction]

end Nodes

/-! ## What the clients of the verifier are told -/

/-- A `verifyBatch` that succeeds answers with the batch found under the id that it was
asked for. -/
def NamesAsked (node : VerifierNode) (parser : VerifierService.Parser)
    (system : VerifiedChain.System) (line : String) (reply : Option RpcResponse) : Prop :=
  ∀ request batchId response, broadcastOf parser line = none →
    parser.request line = .ok request → request.method = "verifyBatch" →
    batchIdParam request = some batchId → reply = some response → response.error = none →
    ∃ verified ∈ system.state.verifiedBatches, FoundUnder node batchId verified.batchId ∧
      response.result = VerifierService.verifiedBatchValue verified

/-- What a successful response shows, and of which batches. -/
inductive Shows (node : VerifierNode) (system : VerifiedChain.System) (request : RpcRequest) :
    Value → Prop where
  | verified (batchId : String) (verified : VerifiedBatch)
      (method : request.method = "verifyBatch") (named : batchIdParam request = some batchId)
      (found : FoundUnder node batchId verified.batchId)
      (listed : verified ∈ system.state.verifiedBatches) :
      Shows node system request (VerifierService.verifiedBatchValue verified)
  | status (past : List VerifiedBatch) (failed : UInt64) (pending : Nat)
      (method : request.method = "getStatus") (since : past <+: system.state.verifiedBatches) :
      Shows node system request (VerifierService.statusValue node.nodeId (.ofNat past.length) failed
        pending (VerifiedChain.lastRoot past))
  | batches (past : List VerifiedBatch) (method : request.method = "getVerifiedBatches")
      (since : past <+: system.state.verifiedBatches) :
      Shows node system request (VerifierService.batchesValue past (limitParam request))
  | attestation (batchId : String) (verified : VerifiedBatch)
      (method : request.method = "getAttestation") (named : batchIdParam request = some batchId)
      (own : verified.batchId = batchId) (listed : verified ∈ system.state.verifiedBatches) :
      Shows node system request (VerifierService.attestationValue verified)

section Shown

variable {node : VerifierNode} {parser : VerifierService.Parser} {disk : Disk}
variable {system : VerifiedChain.System} {line : String} {request : RpcRequest}

theorem names_asked_later {later : VerifiedChain.System} {reply : Option RpcResponse}
    (grows : system.state.verifiedBatches <+: later.state.verifiedBatches)
    (names : NamesAsked node parser system line reply) :
    NamesAsked node parser later line reply := by
  intro request batchId response other read method named made success
  obtain ⟨verified, listed, rest⟩ := names request batchId response other read method named made
    success
  exact ⟨verified, grows.subset listed, rest⟩

theorem finished_names_asked {codec : Codec} {given : Given} {job : VerifierService.Job}
    {readings : Readings} {reply : Option RpcResponse}
    (plain : ∀ index proof, given index = some proof → Plain proof.batchId)
    (origins : VerifierOrigins node codec given system)
    (settled : VerifierService.Settled system)
    (handles : VerifierService.Handles parser system line job)
    (finished : (VerifierService.plan node system job readings).2 = .finished reply) :
    NamesAsked node parser system line reply := by
  intro request batchId response other read method named made success
  cases handles with
  | invalid reason _ unread => cases read.symm.trans unread
  | announce message broadcast => cases other.symm.trans broadcast
  | broadcasting message task broadcast => cases other.symm.trans broadcast
  | dispatch asked _ parsed =>
      cases read.symm.trans parsed
      simp [VerifierService.plan, VerifierService.handleRpc, method, named] at finished
  | verifying asked askedId task _ parsed _ asks started =>
      cases read.symm.trans parsed
      cases named.symm.trans asks
      simp only [VerifierService.plan, VerifierService.awaitVerification] at finished
      split at finished
      · rename_i result stage
        obtain ⟨⟨source, name, _⟩, found, rfl⟩ := Option.map_eq_some_iff.mp stage
        have own : (source, name) = (.rpc, batchId) := by
          rw [taskNames, List.getElem?_map, found] at started
          exact Option.some.inj started
        cases own
        have held := List.mem_of_getElem? found
        cases finished
        cases made
        cases result with
        | error reason => cases success
        | ok verified =>
            exact ⟨verified, settled.results _ held verified rfl,
              returned_found_under plain (origins.readings _ held) rfl, rfl⟩
      · cases finished

theorem attested_batch_mem {batches : List VerifiedBatch} {batchId : String}
    {verified : VerifiedBatch}
    (first : VerifierService.attestedBatch batches batchId = some verified) :
    verified.batchId = batchId ∧ verified ∈ batches := by
  rw [VerifierService.attestedBatch] at first
  have passed := List.find?_some first
  exact ⟨beq_iff_eq.mp passed, List.mem_of_find?_eq_some first⟩

theorem success_shows {response : RpcResponse}
    (replied : VerifierService.Replied node parser disk system line (some response))
    (names : NamesAsked node parser system line (some response))
    (read : parser.request line = .ok request) (success : response.error = none) :
    Shows node system request response.result := by
  cases replied with
  | unreadable reason _ unread => cases success
  | answered asked _ other parsed answered =>
      cases read.symm.trans parsed
      cases answered with
      | verified batchId verified earlier method named =>
          obtain ⟨own, listed, asks, same⟩ :=
            names request batchId _ other read method named rfl success
          rw [same]
          exact .verified batchId own method named asks listed
      | status past failed pending method since =>
          exact .status past failed pending method since
      | batches past method since => exact .batches past method since
      | attestation batchId verified method named first =>
          obtain ⟨own, listed⟩ := attested_batch_mem first
          exact .attestation batchId verified method named own listed
      | _ => cases success

end Shown

/-! ## Acknowledged transactions in verified batches -/

def acknowledgedIds {Policy : Type} (nodes : Nodes Policy) (state : State) : List String :=
  state.validator.log.flatMap fun entry =>
    acknowledged nodes.validatorParser entry.line entry.reply

/-- The validator sealed, executed and proved this batch, and its transactions are the
acknowledged ones from this place on. -/
def Vouched {Policy : Type} (nodes : Nodes Policy) (state : State) (start : Nat)
    (verified : VerifiedBatch) : Prop :=
  ∃ task ∈ state.validator.backend.tasks, ∃ trace, Executed nodes.validator task trace ∧
    verified.batchId = task.batchId ∧
    verified.stateRootPre = trace.stateRootPre ∧
    verified.stateRootPost = trace.stateRootPost ∧
    verified.txCount = task.transactions.length ∧
    ((acknowledgedIds nodes state).drop start).take verified.txCount =
      task.transactions.map fun tx => tx.txId.asStr

/-! ## What every run keeps -/

structure Kept {Policy : Type} [PolicyEngine Policy] (nodes : Nodes Policy) (disk : Disk)
    (state : State) : Prop where
  validatorRun : Later (validatorStep nodes) (.init .init) state.validator
  verifierRun : Later (verifierStep nodes) (.init (.init disk)) state.verifier
  traced : ∃ given, Origins nodes.validator nodes.node nodes.codec given state.exchange
  named : ∀ entry ∈ state.verifier.log,
    NamesAsked nodes.node nodes.nodeParser state.verifier.backend entry.line entry.reply

section Runs

variable {Policy : Type} [PolicyEngine Policy] {nodes : Nodes Policy} {disk : Disk}
variable {state : State} {action : Action}

theorem validator_served
    {service : Service ValidatorNode.System String ValidatorService.Job RpcResponse}
    (run : Later (validatorStep nodes) (.init .init) service) :
    Served (Later (ValidatorNode.step nodes.validator) .init)
      (ValidatorService.Handles nodes.validatorParser)
      (ValidatorService.Replied nodes.validator nodes.validatorParser) service :=
  always_later (served_always (ValidatorService.validator_contract _ _) (later_refl _ _)) run

omit [PolicyEngine Policy] in
theorem verifier_served
    {service : Service VerifiedChain.System String VerifierService.Job RpcResponse}
    (run : Later (verifierStep nodes) (.init (.init disk)) service) :
    Served (Later (VerifiedChain.step nodes.node) (.init disk))
      (VerifierService.Handles nodes.nodeParser)
      (VerifierService.Replied nodes.node nodes.nodeParser disk) service :=
  always_later (served_always (VerifierService.verifier_contract _ _ _) (later_refl _ _)) run

theorem acknowledged_ids_submitted (run : Later (validatorStep nodes) (.init .init)
    state.validator) : txIds state.validator.backend = acknowledgedIds nodes state := by
  have served := served_always
    (ValidatorService.validator_contract nodes.validator nodes.validatorParser)
    (later_refl _ ValidatorNode.System.init)
  have account := fun actions => account_always
    (ValidatorService.validator_accounts nodes.validator nodes.validatorParser) (served actions)
  have last := always_later account run
  exact last

omit [PolicyEngine Policy] in
theorem verifier_step_keeps_named {given : Given}
    {service : Service VerifiedChain.System String VerifierService.Job RpcResponse}
    (run : Later (verifierStep nodes) (.init (.init disk)) service)
    (plain : ∀ index proof, given index = some proof → Plain proof.batchId)
    (origins : VerifierOrigins nodes.node nodes.codec given service.backend)
    (named : ∀ entry ∈ service.log,
      NamesAsked nodes.node nodes.nodeParser service.backend entry.line entry.reply)
    (action : Library.Connections.Action String Readings VerifierService.Event) :
    ∀ entry ∈ (verifierStep nodes service action).log,
      NamesAsked nodes.node nodes.nodeParser (verifierStep nodes service action).backend
        entry.line entry.reply := by
  have served := verifier_served run
  have moved : Later (VerifiedChain.step nodes.node) service.backend
      (verifierStep nodes service action).backend := by
    rw [verifier_step_backend]
    exact later_take _ _ _
  have grows := (VerifierService.later_grows moved).1
  intro entry member
  obtain same | ⟨index, connection, line, job, input, reply, found, working, result, more⟩ :=
    step_log (VerifierService.server nodes.node nodes.nodeParser) service action
  · rw [verifierStep, same] at member
    exact names_asked_later grows (named entry member)
  · rw [verifierStep, more] at member
    obtain old | new := List.mem_append.mp member
    · exact names_asked_later grows (named entry old)
    · rw [List.mem_singleton.mp new]
      have handles := served.jobs connection (List.mem_of_getElem? found) line job working
      have finished := congrArg Prod.snd result
      exact names_asked_later grows (finished_names_asked plain origins
        (VerifierService.reached_settled served.inv) handles finished)

theorem step_keeps_kept (decodes : DecodesWhole nodes.node nodes.codec)
    (sound : Sound nodes state action) (kept : Kept nodes disk state) :
    Kept nodes disk (step nodes state action) := by
  have traced : ∃ given, Origins nodes.validator nodes.node nodes.codec given
      (step nodes state action).exchange := by
    rw [step_exchange nodes state sound.undisturbed]
    cases moved : exchangeAction nodes state action with
    | none => exact kept.traced
    | some move => exact step_keeps_origins decodes (sound.honest move moved) kept.traced
  obtain ⟨given, origins⟩ := kept.traced
  have sealing := ValidatorService.reached_sealing (validator_served kept.validatorRun).inv
  have named := verifier_step_keeps_named kept.verifierRun
    (fun index proof held => given_plain origins.validator sealing held) origins.verifier
    kept.named
  cases action with
  | validator action =>
      cases written : writeOf nodes state action with
      | none =>
          refine ⟨later_trans kept.validatorRun (later_step _ _ action), ?_, traced, ?_⟩
          · simp only [step, written]
            exact kept.verifierRun
          · simp only [step, written]
            exact kept.named
      | some write =>
          refine ⟨later_trans kept.validatorRun (later_step _ _ action), ?_, traced, ?_⟩
          · simp only [step, written]
            exact later_trans kept.verifierRun (later_step _ _ _)
          · simp only [step, written]
            exact named _
  | verifier action =>
      exact ⟨kept.validatorRun, later_trans kept.verifierRun (later_step _ _ action), traced,
        named action⟩

theorem init_kept (unwritten : ∀ batchId bytes, disk (nodes.node.proofPath batchId) ≠ .ok bytes) :
    Kept nodes disk (.init disk) where
  validatorRun := later_refl _ _
  verifierRun := later_refl _ _
  traced := ⟨_, init_origins unwritten⟩
  named := fun _ member => (nomatch member)

theorem given_vouched {given : Given}
    (run : Later (validatorStep nodes) (.init .init) state.validator)
    (origins : ValidatorOrigins nodes.validator given state.validator.backend) {index : Nat}
    {proof : CommonTypes.Proof} (held : given index = some proof) (readings : Readings) :
    Vouched nodes state (startOf (state.validator.backend.tasks.map ValidatorNode.Task.transactions)
      index) (attested nodes.node readings proof) := by
  have sealing := ValidatorService.reached_sealing (validator_served run).inv
  obtain ⟨task, trace, found, executed, made⟩ := origins.made index proof held
  obtain ⟨sameId, sameLength⟩ := executed_header executed
  have counted : (attested nodes.node readings proof).txCount = task.transactions.length :=
    made.txCount.trans sameLength
  refine ⟨task, List.mem_of_getElem? found, trace, executed, made.batchId.trans sameId,
    made.stateRootPre, made.stateRootPost, counted, ?_⟩
  have listed : (state.validator.backend.tasks.map ValidatorNode.Task.transactions)[index]? =
      some task.transactions := by
    rw [List.getElem?_map, found]
    rfl
  have segment := segment_at_start listed state.validator.backend.state.pendingTxs
  rw [← ValidatorRuns.drained, sealing.order] at segment
  rw [← acknowledged_ids_submitted run, txIds, counted, ← List.map_drop, ← List.map_take, segment]

end Runs

section Batches

variable {Policy : Type} [PolicyEngine Policy] {nodes : Nodes Policy} {state : State}
variable {given : Given}

theorem batches_vouched
    (run : Later (validatorStep nodes) (.init .init) state.validator)
    (origins : Origins nodes.validator nodes.node nodes.codec given state.exchange) :
    ∃ start : VerifiedBatch → Nat,
      (∀ verified ∈ state.verifier.backend.state.verifiedBatches,
        Vouched nodes state (start verified) verified) ∧
      ∀ first ∈ state.verifier.backend.state.verifiedBatches,
        ∀ second ∈ state.verifier.backend.state.verifiedBatches,
          first.batchId ≠ second.batchId →
            start first + first.txCount ≤ start second ∨
              start second + second.txCount ≤ start first := by
  have places : ∀ verified, ∃ index,
      verified ∈ state.verifier.backend.state.verifiedBatches → ∃ proof readings,
        given index = some proof ∧ verified = attested nodes.node readings proof := by
    intro verified
    by_cases member : verified ∈ state.verifier.backend.state.verifiedBatches
    · obtain ⟨index, made⟩ := origins.verifier.verified verified member
      exact ⟨index, fun _ => made⟩
    · exact ⟨0, fun listed => absurd listed member⟩
  choose place made using places
  let segments := state.validator.backend.tasks.map ValidatorNode.Task.transactions
  refine ⟨fun verified => startOf segments (place verified), ?_, ?_⟩
  · intro verified member
    obtain ⟨proof, readings, held, copied⟩ := made verified member
    have vouched := given_vouched run origins.validator held readings
    rw [← copied] at vouched
    exact vouched
  · have counted (verified : VerifiedBatch)
        (member : verified ∈ state.verifier.backend.state.verifiedBatches) :
        ∃ transactions, segments[place verified]? = some transactions ∧
          verified.txCount = transactions.length := by
      obtain ⟨proof, readings, held, copied⟩ := made verified member
      obtain ⟨task, trace, found, executed, own⟩ := origins.validator.made _ _ held
      have listed : segments[place verified]? = some task.transactions := by
        rw [List.getElem?_map]
        exact congrArg (Option.map ValidatorNode.Task.transactions) found
      refine ⟨task.transactions, listed, ?_⟩
      rw [copied]
      exact own.txCount.trans (executed_header executed).2
    intro first firstIn second secondIn differ
    obtain ⟨_, firstFound, firstCount⟩ := counted first firstIn
    obtain ⟨_, secondFound, secondCount⟩ := counted second secondIn
    have apart : place first ≠ place second := by
      intro same
      obtain ⟨proof, _, held, copied⟩ := made first firstIn
      obtain ⟨other, _, otherHeld, otherCopied⟩ := made second secondIn
      rw [same, otherHeld, Option.some.injEq] at held
      rw [copied, otherCopied, held] at differ
      exact differ rfl
    dsimp only
    rw [firstCount, secondCount]
    obtain before | after := Nat.lt_or_gt_of_ne apart
    · exact .inl (starts_apart firstFound before)
    · exact .inr (starts_apart secondFound after)

/-- Until batch ids wrap around, a record of the validator and a batch of the verifier
that have one id have the same contents. -/
theorem same_id_same_facts
    (run : Later (validatorStep nodes) (.init .init) state.validator)
    (origins : Origins nodes.validator nodes.node nodes.codec given state.exchange)
    (few : state.validator.backend.tasks.length < 2 ^ 64) {verified : VerifiedBatch}
    (member : verified ∈ state.verifier.backend.state.verifiedBatches)
    {record : ValidatorNode.ProofRecord}
    (recorded : record ∈ state.validator.backend.state.proofs)
    (same : record.batchId = verified.batchId) : SameFacts record verified := by
  have sealing := ValidatorService.reached_sealing (validator_served run).inv
  have distinct : (ValidatorRuns.batchIds state.validator.backend).Nodup := by
    rw [sealing.batchIds]
    exact IssuedIds.issued_nodup IssuedIds.format_batch_id_injective few
  obtain ⟨index, proof, readings, held, copied⟩ := origins.verifier.verified verified member
  obtain ⟨other, otherProof, task, timestamp, otherHeld, found, filed⟩ :=
    origins.validator.records record recorded
  obtain ⟨owner, trace, ownerFound, executed, made⟩ :=
    origins.validator.made other otherProof otherHeld
  cases found.symm.trans ownerFound
  have sameId : otherProof.batchId = proof.batchId := by
    rw [made.batchId, (executed_header executed).1]
    rw [filed, copied] at same
    exact same
  have equal := given_unique origins.validator distinct otherHeld held sameId
  rw [filed, copied, equal]
  constructor <;> rfl

end Batches

section Samples

open CatalystSvm.ValidatorRuns CatalystSvm.ValidatorService

def verifyParser : VerifierService.Parser where
  message _ := none
  request line :=
    if line = "verify" then
      .ok { method := "verifyBatch", params := .object [("batch_id", .string "batch_000001")],
            id := 3 }
    else .error "expected value"

def sampleNodes : Nodes FixedCountPolicy where
  validator := eagerValidator
  validatorParser := wordParser
  node := polledNode
  nodeParser := verifyParser
  codec := singleCodec

/-- One client submits; the batch is sealed, proved and saved; another client has it
verified. -/
def submitAndVerify : List Action :=
  [.validator .connect, .validator (.receive 0 "submit"), .validator (.work 0 ⟨0, .record⟩),
    .validator (.write 0 true), .validator (.move (.tick 0)),
    .validator (.move (.advance 0 (.execute 0 0))),
    .validator (.move (.advance 0 (.prove (.returned (.ok polledProof)) 0))),
    .validator (.move (.advance 0 (.write (.ok ())))),
    .validator (.move (.advance 0 (.write (.ok ())))), .validator (.move (.advance 0 .record)),
    .verifier .connect, .verifier (.receive 0 "verify"), .verifier (.work 0 sampleReadings),
    .verifier (.work 0 sampleReadings), .verifier (.work 0 sampleReadings),
    .verifier (.work 0 sampleReadings), .verifier (.work 0 sampleReadings)]

def sampleState (count : Nat) : State :=
  stateAfter (step sampleNodes) (.init emptyDirectory) submitAndVerify count

def givesProof : ProofPolling.Action → Bool
  | .validator (.advance _ (.prove (.returned (.ok _)) _)) => true
  | _ => false

theorem quiet_proves_own {Policy : Type} (validator : Validator Policy) (system : Exchange)
    {move : ProofPolling.Action} (quiet : givesProof move = false) :
    ProvesOwnTrace validator system move := by
  unfold ProvesOwnTrace
  split
  · cases quiet
  · trivial

theorem submit_and_verify_sound :
    EachStep (step sampleNodes) (.init emptyDirectory) submitAndVerify (Sound sampleNodes) := by
  intro count action taken
  have undisturbed : ∀ other ∈ submitAndVerify, Undisturbed other := by
    simp [submitAndVerify, Undisturbed]
  refine ⟨undisturbed action (List.mem_of_getElem? taken), ?_⟩
  intro move moved
  by_cases proving : count = 6
  · subst proving
    cases taken
    cases moved
    intro task trace found stage
    have known : (sampleState 6).validator.backend.tasks[0]?.map (fun task =>
        (task.transactions, executedTrace task)) =
          some (polledTask.transactions, some polledTrace) := by
      decide +kernel
    have here : (sampleState 6).validator.backend.tasks[0]? = some task := found
    rw [here, Option.map_some, executedTrace, stage, Option.some.injEq,
      Prod.mk.injEq, Option.some.injEq] at known
    rw [known.1, known.2]
    exact ⟨_, 0, 0, polled_outcome⟩
  · have quiet : ∀ index < 17, index ≠ 6 → (submitAndVerify[index]?.bind
        (exchangeAction sampleNodes (sampleState index))).any givesProof = false := by
      decide +kernel
    have bound := (List.getElem?_eq_some_iff.mp taken).1
    have silent := quiet count bound proving
    have same : exchangeAction sampleNodes (sampleState count) action = some move := moved
    rw [taken, Option.bind_some, same, Option.any_some] at silent
    exact quiet_proves_own _ _ silent

end Samples

end CatalystSvm.Deployment
