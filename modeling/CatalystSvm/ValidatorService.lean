import CatalystSvm.Library.Connections
import CatalystSvm.RpcMessages
import CatalystSvm.ValidatorRuns

/-!
# The validator behind its RPC interface

`handle_connection` and `handle_rpc` of `examples/validator/src/main.rs` over the
transition system of the node: any number of connections, the ticker and the
batches of both, in any interleaving. `serde_json` is a parameter.
-/

namespace CatalystSvm.ValidatorService

open CatalystSvm.CommonTypes CatalystSvm.BatchPolicy CatalystSvm.ValidatorNode
open CatalystSvm.ValidatorRuns CatalystSvm.RpcMessages
open CatalystSvm.Library.Runs
open CatalystSvm.Library.Connections hiding step Action

set_option autoImplicit false

/-- `serde_json::from_str` into `RpcRequest` and `from_value` into `SubmitTxParams`. -/
structure Parser where
  request : String → Except String RpcRequest
  submitParams : Value → Except String SubmitTxParams

inductive Job where
  | invalid (reason : String)
  | dispatch (request : RpcRequest)
  /-- The `process_batch` of a `forceSeal`. -/
  | sealing (id : UInt64) (batch : Nat)

/-- What a step reads from the clock, and what the awaited batch comes to. -/
structure Input where
  now : UInt64
  event : ValidatorNode.Event

inductive Event where
  | tick (now : UInt64)
  | advance (batch : Nat) (event : ValidatorNode.Event)

def proofRecordValue (record : ProofRecord) : Value :=
  .object [
    ("batch_id", .string record.batchId),
    ("proof_hash", .string record.proofHash),
    ("state_root_pre", .string record.stateRootPre),
    ("state_root_post", .string record.stateRootPost),
    ("tx_count", .ofUsize record.txCount),
    ("proving_time_ms", .ofU64 record.provingTimeMs),
    ("proof_size_bytes", .ofUsize record.proofSizeBytes),
    ("timestamp", .ofU64 record.timestamp)]

section Handlers

variable {Policy : Type} [PolicyEngine Policy] (validator : Validator Policy) (parser : Parser)

/-- Nothing is ever pushed to `batches`. -/
def statusValue (system : System) : Value :=
  .object [
    ("pending_txs", .ofUsize system.state.pendingTxs.length),
    ("total_batches", .ofUsize 0),
    ("total_proofs", .ofUsize system.state.proofs.length),
    ("policy", .string (PolicyEngine.name validator.policy))]

def proofsValue (system : System) : Value :=
  .array (system.state.proofs.map proofRecordValue)

def accept (line : String) : Job :=
  match parser.request line with
  | .error reason => .invalid reason
  | .ok request => .dispatch request

/-- The policy asks for a seal, so only the counter can prevent it. -/
def wantsSeal (now : UInt64) (state : ValidatorState) : Bool :=
  match state.pendingTxs with
  | [] => false
  | oldest :: _ =>
      PolicyEngine.shouldSeal validator.policy state.pendingTxs.length
        (MachineArithmetic.saturatingSub now oldest.arrivalTs) 0.0

def handleSubmit (request : RpcRequest) (now : UInt64) (system : System) :
    Option Action × Progress Job RpcResponse :=
  match parser.submitParams request.params with
  | .error reason =>
      (none, .finished (some (.failure request.id ("Invalid params: " ++ reason))))
  | .ok params =>
      match submitTransaction validator params now system.state with
      | none => (none, .crashed)
      | some (_, tx) =>
          (some (.submit params now),
            .finished (some (.success request.id (.object [("tx_id", .string tx.txId.asStr)]))))

def handleForceSeal (request : RpcRequest) (now : UInt64) (system : System) :
    Option Action × Progress Job RpcResponse :=
  match checkAndSealBatch validator now system.state with
  | some _ => (some (.checkAndSeal now), .working (.sealing request.id system.tasks.length))
  | none =>
      if wantsSeal validator now system.state then (none, .crashed)
      else (none, .finished (some (.failure request.id "No transactions to seal")))

def handleRpc (request : RpcRequest) (now : UInt64) (system : System) :
    Option Action × Progress Job RpcResponse :=
  if request.method = "submitTransaction" then
    handleSubmit validator parser request now system
  else if request.method = "getStatus" then
    (none, .finished (some (.success request.id (statusValue validator system))))
  else if request.method = "getProofs" then
    (none, .finished (some (.success request.id (proofsValue system))))
  else if request.method = "forceSeal" then
    handleForceSeal validator request now system
  else
    (none, .finished (some (.failure request.id ("Unknown method: " ++ request.method))))

/-- How a `forceSeal` goes on once its batch stands here. A batch that failed is
answered like an empty queue. -/
def sealProgress (id : UInt64) (batch : Nat) (task : Task) : Progress Job RpcResponse :=
  match task.stage with
  | .recorded => .finished (some (.success id (.object [("batch_id", .string task.batchId)])))
  | .failed _ => .finished (some (.failure id "No transactions to seal"))
  | .panicked => .crashed
  | _ => .working (.sealing id batch)

def awaitSeal (id : UInt64) (batch : Nat) (event : ValidatorNode.Event) (system : System) :
    Option Action × Progress Job RpcResponse :=
  match (step validator system (.advance batch event)).tasks[batch]? with
  | none => (some (.advance batch event), .working (.sealing id batch))
  | some task => (some (.advance batch event), sealProgress id batch task)

def plan (system : System) (job : Job) (input : Input) :
    Option Action × Progress Job RpcResponse :=
  match job with
  | .invalid reason => (none, .finished (some (.failure 0 ("Parse error: " ++ reason))))
  | .dispatch request => handleRpc validator parser request input.now system
  | .sealing id batch => awaitSeal validator id batch input.event system

def ownAction : Event → Action
  | .tick now => .checkAndSeal now
  | .advance batch event => .advance batch event

def planner : Planner System String Job RpcResponse Input Event Action where
  accept := accept parser
  plan := plan validator parser
  own _ event := some (ownAction event)

def server : Server System String Job RpcResponse Input Event :=
  (planner validator parser).server (step validator)

end Handlers

/-! ## What the connections see -/

structure Carries (params : SubmitTxParams) (tx : Transaction) : Prop where
  sender : tx.sender = params.sender
  programId : tx.programId = params.programId
  instructionData : tx.instructionData = params.instructionData
  priority : tx.priority = parsePriority params.priority

/-- A response and what is behind it. -/
inductive Answered {Policy : Type} [PolicyEngine Policy] (validator : Validator Policy)
    (parser : Parser) (system : System) (request : RpcRequest) : RpcResponse → Prop where
  | submitted (params : SubmitTxParams) (tx : Transaction)
      (method : request.method = "submitTransaction")
      (read : parser.submitParams request.params = .ok params) (kept : tx ∈ system.submitted)
      (carries : Carries params tx) :
      Answered validator parser system request
        (.success request.id (.object [("tx_id", .string tx.txId.asStr)]))
  | invalidParams (reason : String) (method : request.method = "submitTransaction")
      (unread : parser.submitParams request.params = .error reason) :
      Answered validator parser system request
        (.failure request.id ("Invalid params: " ++ reason))
  | status (earlier : System) (method : request.method = "getStatus")
      (reached : Later (step validator) .init earlier) (since : Later (step validator) earlier system) :
      Answered validator parser system request
        (.success request.id (statusValue validator earlier))
  | proofs (earlier : System) (method : request.method = "getProofs")
      (reached : Later (step validator) .init earlier) (since : Later (step validator) earlier system) :
      Answered validator parser system request (.success request.id (proofsValue earlier))
  | sealed (record : ProofRecord) (method : request.method = "forceSeal")
      (listed : record ∈ system.state.proofs) :
      Answered validator parser system request
        (.success request.id (.object [("batch_id", .string record.batchId)]))
  | nothingSealed (method : request.method = "forceSeal") :
      Answered validator parser system request (.failure request.id "No transactions to seal")
  | unknown (method : request.method ∉
        ["submitTransaction", "getStatus", "getProofs", "forceSeal"]) :
      Answered validator parser system request
        (.failure request.id ("Unknown method: " ++ request.method))

inductive Replied {Policy : Type} [PolicyEngine Policy] (validator : Validator Policy)
    (parser : Parser) (system : System) (line : String) : Option RpcResponse → Prop where
  | unreadable (reason : String) (unread : parser.request line = .error reason) :
      Replied validator parser system line (some (.failure 0 ("Parse error: " ++ reason)))
  | answered (request : RpcRequest) (response : RpcResponse)
      (read : parser.request line = .ok request)
      (answered : Answered validator parser system request response) :
      Replied validator parser system line (some response)

inductive Handles (parser : Parser) (system : System) (line : String) : Job → Prop where
  | invalid (reason : String) (unread : parser.request line = .error reason) :
      Handles parser system line (.invalid reason)
  | dispatch (request : RpcRequest) (read : parser.request line = .ok request) :
      Handles parser system line (.dispatch request)
  | sealing (request : RpcRequest) (batch : Nat) (read : parser.request line = .ok request)
      (method : request.method = "forceSeal") :
      Handles parser system line (.sealing request.id batch)

section Growth

variable {Policy : Type} [PolicyEngine Policy] {validator : Validator Policy}
variable {before middle after : System}

theorem step_grows (validator : Validator Policy) (system : System)
    (action : Action) :
    system.submitted <+: (step validator system action).submitted ∧
      system.state.proofs <+: (step validator system action).state.proofs := by
  cases action with
  | submit params now =>
      cases submitted : submitTransaction validator params now system.state with
      | none =>
          simp only [step, submitted]
          exact ⟨List.prefix_refl _, List.prefix_refl _⟩
      | some result =>
          obtain ⟨state, tx⟩ := result
          obtain ⟨counter, _, _, rfl⟩ := submit_some submitted
          simp only [step, submitted]
          exact ⟨List.prefix_append _ _, List.prefix_refl _⟩
  | checkAndSeal now =>
      cases checked : checkAndSealBatch validator now system.state with
      | none =>
          simp only [step, checked]
          exact ⟨List.prefix_refl _, List.prefix_refl _⟩
      | some result =>
          obtain ⟨state, batchId, transactions⟩ := result
          obtain ⟨counter, _, _, _, _, rfl⟩ := check_and_seal_some checked
          simp only [step, checked]
          exact ⟨List.prefix_refl _, List.prefix_refl _⟩
  | advance index event =>
      cases found : system.tasks[index]? with
      | none =>
          simp only [step, found]
          exact ⟨List.prefix_refl _, List.prefix_refl _⟩
      | some task =>
          simp only [step, found]
          obtain ⟨_, _, _, _, result⟩ | ⟨_, result⟩ | ⟨_, result⟩ :=
            @advance_cases _ validator _ _ _ event found
          · rw [result]
            exact ⟨List.prefix_refl _, List.prefix_append _ _⟩
          · rw [result]
            exact ⟨List.prefix_refl _, List.prefix_refl _⟩
          · rw [result]
            exact ⟨List.prefix_refl _, List.prefix_refl _⟩

theorem later_grows (later : Later (step validator) before after) :
    before.submitted <+: after.submitted ∧ before.state.proofs <+: after.state.proofs :=
  ⟨later_extends System.submitted (fun system action => (step_grows validator system action).1)
      later,
    later_extends (fun system => system.state.proofs)
      (fun system action => (step_grows validator system action).2) later⟩

theorem reached_sealing (reached : Later (step validator) .init after) :
    Sealing validator.batchSize after :=
  always_later (run_sealing validator) reached

theorem recorded_task_listed {system : System} {batch : Nat} {task : Task}
    (reached : Later (step validator) .init system) (found : system.tasks[batch]? = some task)
    (recorded : task.stage = .recorded) :
    ∃ record ∈ system.state.proofs, record.batchId = task.batchId := by
  have selected : task ∈ system.tasks.filter isRecorded := by
    rw [List.mem_filter]
    refine ⟨List.mem_of_getElem? found, ?_⟩
    rw [isRecorded, recorded]
    rfl
  have named : task.batchId ∈ recordedIds system :=
    (reached_sealing reached).records.mem_iff.mpr (List.mem_map_of_mem selected)
  exact List.mem_map.mp named

theorem answered_later {parser : Parser} {request : RpcRequest} {response : RpcResponse}
    (later : Later (step validator) before after)
    (answered : Answered validator parser before request response) :
    Answered validator parser after request response := by
  have grows := later_grows later
  cases answered with
  | submitted params tx method read kept carries =>
      exact .submitted params tx method read (grows.1.subset kept) carries
  | invalidParams reason method unread => exact .invalidParams reason method unread
  | status earlier method reached since =>
      exact .status earlier method reached (later_trans since later)
  | proofs earlier method reached since =>
      exact .proofs earlier method reached (later_trans since later)
  | sealed record method listed => exact .sealed record method (grows.2.subset listed)
  | nothingSealed method => exact .nothingSealed method
  | unknown method => exact .unknown method

end Growth

/-! ## The handlers against the contract -/

section Contract

variable {Policy : Type} [PolicyEngine Policy] {validator : Validator Policy} {parser : Parser}
variable {system : System} {line : String} {request : RpcRequest}

/-- The handler goes on with its line, or ends with an answer to it, where the node
stands after this move. -/
def Serves (validator : Validator Policy) (parser : Parser) (system : System) (line : String)
    (outcome : Option Action × Progress Job RpcResponse) : Prop :=
  outcome.2.Meets (Handles parser (take (step validator) system outcome.1) line)
    (Replied validator parser (take (step validator) system outcome.1) line)

theorem submit_serves (now : UInt64) (read : parser.request line = .ok request)
    (method : request.method = "submitTransaction") :
    Serves validator parser system line (handleSubmit validator parser request now system) := by
  unfold handleSubmit
  cases parsed : parser.submitParams request.params with
  | error reason => exact .answered request _ read (.invalidParams reason method parsed)
  | ok params =>
      dsimp only
      cases submitted : submitTransaction validator params now system.state with
      | none => trivial
      | some result =>
          obtain ⟨state, tx⟩ := result
          refine .answered request _ read (.submitted params tx method parsed ?_ ?_)
          · simp only [take_some, step, submitted]
            exact List.mem_append_right _ (List.mem_singleton_self _)
          · obtain ⟨counter, _, rfl, _⟩ := submit_some submitted
            exact ⟨rfl, rfl, rfl, rfl⟩

theorem force_seal_serves (now : UInt64) (read : parser.request line = .ok request)
    (method : request.method = "forceSeal") :
    Serves validator parser system line (handleForceSeal validator request now system) := by
  unfold handleForceSeal
  cases checked : checkAndSealBatch validator now system.state with
  | none =>
      dsimp only
      split_ifs with wanted
      · trivial
      · exact .answered request _ read (.nothingSealed method)
  | some result => exact .sealing request _ read method

theorem rpc_serves (now : UInt64) (reached : Later (step validator) .init system)
    (read : parser.request line = .ok request) :
    Serves validator parser system line (handleRpc validator parser request now system) := by
  unfold handleRpc
  split_ifs with submits status proofs seals
  · exact submit_serves now read submits
  · exact .answered request _ read (.status system status reached (later_refl _ _))
  · exact .answered request _ read (.proofs system proofs reached (later_refl _ _))
  · exact force_seal_serves now read seals
  · refine .answered request _ read (.unknown ?_)
    simp [submits, status, proofs, seals]

theorem seal_serves (batch : Nat) (event : ValidatorNode.Event)
    (reached : Later (step validator) .init system) (read : parser.request line = .ok request)
    (method : request.method = "forceSeal") :
    Serves validator parser system line (awaitSeal validator request.id batch event system) := by
  have later := later_step (step validator) system (.advance batch event)
  unfold awaitSeal
  cases found : (step validator system (.advance batch event)).tasks[batch]? with
  | none => exact .sealing request batch read method
  | some task =>
      simp only [Serves, sealProgress, take_some]
      cases stage : task.stage with
      | recorded =>
          obtain ⟨record, listed, named⟩ :=
            recorded_task_listed (later_trans reached later) found stage
          rw [← named]
          exact .answered request _ read (.sealed record method listed)
      | failed reason => exact .answered request _ read (.nothingSealed method)
      | panicked => trivial
      | _ => exact .sealing request batch read method

theorem validator_contract (validator : Validator Policy) (parser : Parser) :
    Contract (server validator parser) (Later (step validator) .init) (Later (step validator))
      (Handles parser) (Replied validator parser) := by
  apply planner_contract
  case accepts =>
    intro system line
    simp only [planner, accept]
    cases parsed : parser.request line with
    | error reason => exact .invalid reason parsed
    | ok request => exact .dispatch request parsed
  case plans =>
    intro system line job input reached handles
    cases handles with
    | invalid reason unread => exact .unreadable reason unread
    | dispatch request read => exact rpc_serves input.now reached read
    | sealing request batch read method =>
        exact seal_serves batch input.event reached read method
  case holds_later =>
    intro before after line job _ handles
    cases handles with
    | invalid reason unread => exact .invalid reason unread
    | dispatch request read => exact .dispatch request read
    | sealing request batch read method => exact .sealing request batch read method
  case right_later =>
    intro before after line reply later replied
    cases replied with
    | unreadable reason unread => exact .unreadable reason unread
    | answered request response read answered =>
        exact .answered request response read (answered_later later answered)

end Contract

/-! ## Acknowledged transactions -/

def acknowledged (parser : Parser) (line : String) (reply : Option RpcResponse) : List String :=
  match parser.request line, reply with
  | .ok request, some response =>
      if request.method = "submitTransaction" then
        ((response.result.get "tx_id").bind Value.asStr).toList
      else []
  | _, _ => []

section Acknowledgements

variable {Policy : Type} [PolicyEngine Policy] {validator : Validator Policy} {parser : Parser}
variable {system : System} {line : String} {request : RpcRequest}

theorem seal_keeps_submitted (validator : Validator Policy) (system : System) (now : UInt64) :
    (step validator system (.checkAndSeal now)).submitted = system.submitted := by
  cases checked : checkAndSealBatch validator now system.state with
  | none => simp only [step, checked]
  | some result => simp only [step, checked]

theorem advance_keeps_submitted (validator : Validator Policy) (system : System) (batch : Nat)
    (event : ValidatorNode.Event) :
    (step validator system (.advance batch event)).submitted =
      system.submitted := by
  cases found : system.tasks[batch]? with
  | none => simp only [step, found]
  | some task =>
      simp only [step, found]
      obtain ⟨_, _, _, _, result⟩ | ⟨_, result⟩ | ⟨_, result⟩ :=
        @advance_cases _ validator _ _ _ event found
      · rw [result]
        rfl
      · rw [result]
        rfl
      · rw [result]

theorem not_submitted_unacknowledged (read : parser.request line = .ok request)
    (method : request.method ≠ "submitTransaction") (reply : Option RpcResponse) :
    acknowledged parser line reply = [] := by
  cases reply with
  | none => simp only [acknowledged, read]
  | some response => simp only [acknowledged, read, if_neg method]

def Acknowledges (validator : Validator Policy) (parser : Parser) (system : System)
    (line : String) (outcome : Option Action × Progress Job RpcResponse) : Prop :=
  txIds (take (step validator) system outcome.1) =
    txIds system ++ outcome.2.counted (acknowledged parser) line

theorem submit_accounts (now : UInt64) (read : parser.request line = .ok request)
    (method : request.method = "submitTransaction") :
    Acknowledges validator parser system line
      (handleSubmit validator parser request now system) := by
  unfold handleSubmit Acknowledges
  cases parsed : parser.submitParams request.params with
  | error reason =>
      have none_given : acknowledged parser line
          (some (.failure request.id ("Invalid params: " ++ reason))) = [] := by
        simp only [acknowledged, read, if_pos method]
        rfl
      simp only [take_none, Progress.counted, none_given, List.append_nil]
  | ok params =>
      dsimp only
      cases submitted : submitTransaction validator params now system.state with
      | none => simp only [take_none, Progress.counted, List.append_nil]
      | some result =>
          obtain ⟨state, tx⟩ := result
          have given : acknowledged parser line (some (.success request.id
              (.object [("tx_id", .string tx.txId.asStr)]))) = [tx.txId.asStr] := by
            simp only [acknowledged, read, if_pos method]
            rfl
          simp only [take_some, Progress.counted, given, step, submitted, txIds,
            List.map_append, List.map_cons, List.map_nil]

theorem rpc_accounts (now : UInt64) (read : parser.request line = .ok request) :
    Acknowledges validator parser system line
      (handleRpc validator parser request now system) := by
  by_cases method : request.method = "submitTransaction"
  · rw [handleRpc, if_pos method]
    exact submit_accounts now read method
  · have silent : (handleRpc validator parser request now system).2.counted
        (acknowledged parser) line = [] := by
      cases (handleRpc validator parser request now system).2 with
      | finished reply => exact not_submitted_unacknowledged read method reply
      | _ => rfl
    have same : (take (step validator) system
        (handleRpc validator parser request now system).1).submitted = system.submitted := by
      rw [handleRpc, if_neg method]
      split_ifs with status proofs seals
      · rfl
      · rfl
      · unfold handleForceSeal
        cases checked : checkAndSealBatch validator now system.state with
        | none =>
            dsimp only
            split_ifs <;> rfl
        | some result => exact seal_keeps_submitted validator system now
      · rfl
    rw [Acknowledges, silent, List.append_nil, txIds, same, txIds]

theorem seal_accounts (batch : Nat) (event : ValidatorNode.Event)
    (read : parser.request line = .ok request) (method : request.method = "forceSeal") :
    Acknowledges validator parser system line
      (awaitSeal validator request.id batch event system) := by
  have other : request.method ≠ "submitTransaction" := by
    rw [method]
    decide
  have silent : (awaitSeal validator request.id batch event system).2.counted
      (acknowledged parser) line = [] := by
    cases (awaitSeal validator request.id batch event system).2 with
    | finished reply => exact not_submitted_unacknowledged read other reply
    | _ => rfl
  have same : (take (step validator) system
      (awaitSeal validator request.id batch event system).1).submitted = system.submitted := by
    have kept := advance_keeps_submitted validator system batch event
    unfold awaitSeal
    cases found : (step validator system (.advance batch event)).tasks[batch]? with
    | none => exact kept
    | some task => exact kept
  rw [Acknowledges, silent, List.append_nil, txIds, same, txIds]

theorem validator_accounts (validator : Validator Policy) (parser : Parser) :
    Accounts (server validator parser) (Handles parser) (Later (step validator) .init) txIds
      (acknowledged parser) where
  works := by
    intro system line job input _ handles
    cases handles with
    | invalid reason unread =>
        have silent : acknowledged parser line
            (some (.failure 0 ("Parse error: " ++ reason))) = [] := by
          simp only [acknowledged, unread]
        simp only [server, Planner.server, planner, plan, take_none, Progress.counted, silent,
          List.append_nil]
    | dispatch request read => exact rpc_accounts input.now read
    | sealing request batch read method => exact seal_accounts batch input.event read method
  moves := by
    intro system event
    simp only [txIds, server, Planner.server, planner, take_some]
    cases event with
    | tick now => rw [ownAction, seal_keeps_submitted validator system now]
    | advance batch event => rw [ownAction, advance_keeps_submitted validator system batch event]

end Acknowledgements

section Samples

def wordParser : Parser where
  request line :=
    if line = "submit" then .ok { method := "submitTransaction", params := .null, id := 7 }
    else .error "expected value"
  submitParams _ := .ok (sampleParams "alice")

def twoConnections : List (Library.Connections.Action String Input Event) :=
  [.connect, .connect, .receive 0 "submit", .receive 1 "?", .work 1 ⟨0, .record⟩,
    .work 0 ⟨0, .record⟩, .write 0 true, .write 1 true]

end Samples

example : (stateAfter (Library.Connections.step (server eagerValidator wordParser)) (.init .init)
    twoConnections 8).connections.map (fun connection => connection.sent.map RpcResponse.id) =
      [[7], [0]] := by
  decide +kernel

end CatalystSvm.ValidatorService
