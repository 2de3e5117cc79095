import CatalystSvm.Library.Connections
import CatalystSvm.Library.TaskLists
import CatalystSvm.RpcMessages
import CatalystSvm.VerifiedChain

/-!
# The verifier node behind its connections

`handle_connection` and `handle_rpc` of `examples/verifier-node/src/main.rs` over
the transition system of the node: requests and proof broadcasts on any number of
connections, the poller, and files that change, in any interleaving. `serde_json`
is a parameter.
-/

namespace CatalystSvm.VerifierService

open CatalystSvm.ProofAttestation CatalystSvm.VerifiedChain CatalystSvm.RpcMessages
open CatalystSvm.Library.Runs
open CatalystSvm.Library.Connections hiding step Action

set_option autoImplicit false

/-- `serde_json::from_str` into `ProofMessage` and into `RpcRequest`. -/
structure Parser where
  message : String → Option ProofMessage
  request : String → Except String RpcRequest

inductive Job where
  | invalid (reason : String)
  | announce (message : ProofMessage)
  | broadcasting (task : Nat)
  | dispatch (request : RpcRequest)
  | verifying (id : UInt64) (task : Nat)

inductive Event where
  | setFile (name : String) (content : Except String (List UInt8))
  | pollEntry (batchId : String)
  | pollAdvance (task : Nat) (readings : Readings)

def verifiedBatchValue (verified : VerifiedBatch) : Value :=
  .object [
    ("batch_id", .string verified.batchId),
    ("proof_hash", .string verified.proofHash),
    ("state_root_pre", .string verified.stateRootPre),
    ("state_root_post", .string verified.stateRootPost),
    ("tx_count", .ofUsize verified.txCount),
    ("verification_time_ms", .ofU64 verified.verificationTimeMs),
    ("verified_at", .ofU64 verified.verifiedAt),
    ("attestation", .string verified.attestation)]

def statusValue (nodeId : String) (verifiedCount failedCount : UInt64) (pendingCount : Nat)
    (currentStateRoot : String) : Value :=
  .object [
    ("node_id", .string nodeId),
    ("verified_count", .ofU64 verifiedCount),
    ("failed_count", .ofU64 failedCount),
    ("pending_count", .ofUsize pendingCount),
    ("current_state_root", .string currentStateRoot)]

def batchesValue (batches : List VerifiedBatch) (limit : Nat) : Value :=
  .array ((batches.reverse.take limit).map verifiedBatchValue)

def attestationValue (verified : VerifiedBatch) : Value :=
  .object [("attestation", .string verified.attestation)]

def batchIdParam (request : RpcRequest) : Option String :=
  (request.params.get "batch_id").bind Value.asStr

def limitParam (request : RpcRequest) : Nat :=
  (((request.params.get "limit").bind Value.asU64).getD 100).toNat

def attestedBatch (batches : List VerifiedBatch) (batchId : String) : Option VerifiedBatch :=
  batches.find? fun verified => verified.batchId == batchId

section Handlers

variable (node : VerifierNode) (parser : Parser)

/-- A line that is handled as a broadcast and gets no response. -/
def broadcastOf (line : String) : Option ProofMessage :=
  (parser.message line).filter fun message => message.msgType == "proof"

def accept (line : String) : Job :=
  match broadcastOf parser line with
  | some message => .announce message
  | none =>
      match parser.request line with
      | .error reason => .invalid reason
      | .ok request => .dispatch request

def verificationResponse (id : UInt64) : Except String VerifiedBatch → RpcResponse
  | .ok verified => .success id (verifiedBatchValue verified)
  | .error reason => .failure id reason

def attestationResponse (id : UInt64) (batches : List VerifiedBatch) (batchId : String) :
    RpcResponse :=
  match attestedBatch batches batchId with
  | some verified => .success id (attestationValue verified)
  | none => .failure id "Batch not verified"

def handleRpc (request : RpcRequest) (system : System) :
    Option Action × Progress Job RpcResponse :=
  if request.method = "verifyBatch" then
    match batchIdParam request with
    | some batchId =>
        (some (.verifyBatch batchId), .working (.verifying request.id system.tasks.length))
    | none => (none, .finished (some (.failure request.id "Missing batch_id")))
  else if request.method = "getStatus" then
    (none, .finished (some (.success request.id
      (statusValue node.nodeId system.state.verificationCount system.state.failedCount
        system.state.pendingVerifications.size system.state.currentStateRoot))))
  else if request.method = "getVerifiedBatches" then
    (none, .finished (some (.success request.id
      (batchesValue system.state.verifiedBatches (limitParam request)))))
  else if request.method = "getAttestation" then
    match batchIdParam request with
    | some batchId =>
        (none, .finished (some
          (attestationResponse request.id system.state.verifiedBatches batchId)))
    | none => (none, .finished (some (.failure request.id "Missing batch_id")))
  else
    (none, .finished (some (.failure request.id ("Unknown method: " ++ request.method))))

def awaitVerification (task : Nat) (readings : Readings) (system : System) (job : Job)
    (respond : Except String VerifiedBatch → Option RpcResponse) :
    Option Action × Progress Job RpcResponse :=
  match (system.tasks[task]?).map Task.stage with
  | some (.returned result) => (some (.advance task readings), .finished (respond result))
  | _ => (some (.advance task readings), .working job)

def plan (system : System) (job : Job) (readings : Readings) :
    Option Action × Progress Job RpcResponse :=
  match job with
  | .invalid reason => (none, .finished (some (.failure 0 ("Parse error: " ++ reason))))
  | .announce message =>
      (some (.proofBroadcast message), .working (.broadcasting system.tasks.length))
  | .broadcasting task =>
      awaitVerification task readings system (.broadcasting task) fun _ => none
  | .dispatch request => handleRpc node request system
  | .verifying id task =>
      awaitVerification task readings system (.verifying id task) fun result =>
        some (verificationResponse id result)

def ownAction (system : System) : Event → Option Action
  | .setFile name content => some (.setFile name content)
  | .pollEntry batchId => some (.pollEntry batchId)
  | .pollAdvance task readings =>
      match (system.tasks[task]?).map Task.source with
      | some .poll => some (.advance task readings)
      | _ => none

def planner : Planner System String Job RpcResponse Readings Event Action where
  accept := accept parser
  plan := plan node
  own := ownAction

def server : Server System String Job RpcResponse Readings Event :=
  (planner node parser).server (step node)

end Handlers

/-! ## What the connections see -/

def Returned (system : System) (batchId : String) (result : Except String VerifiedBatch) : Prop :=
  ∃ task : Nat, system.tasks[task]? = some ⟨.rpc, batchId, .returned result⟩

/-- A response and what is behind it. The lists it shows are beginnings of the list
of verified batches, which only grows. -/
inductive Answered (node : VerifierNode) (disk : Disk) (system : System) (request : RpcRequest) :
    RpcResponse → Prop where
  | verified (batchId : String) (verified : VerifiedBatch) (earlier : System)
      (method : request.method = "verifyBatch") (named : batchIdParam request = some batchId)
      (reached : Later (step node) (.init disk) earlier) (since : Later (step node) earlier system)
      (returned : Returned earlier batchId (.ok verified))
      (kept : verified ∈ system.state.verifiedBatches) :
      Answered node disk system request (.success request.id (verifiedBatchValue verified))
  | unverified (batchId reason : String) (earlier : System)
      (method : request.method = "verifyBatch") (named : batchIdParam request = some batchId)
      (reached : Later (step node) (.init disk) earlier) (since : Later (step node) earlier system)
      (returned : Returned earlier batchId (.error reason)) :
      Answered node disk system request (.failure request.id reason)
  | missing (method : request.method = "verifyBatch" ∨ request.method = "getAttestation")
      (unnamed : batchIdParam request = none) :
      Answered node disk system request (.failure request.id "Missing batch_id")
  | status (past : List VerifiedBatch) (failed : UInt64) (pending : Nat)
      (method : request.method = "getStatus") (since : past <+: system.state.verifiedBatches) :
      Answered node disk system request (.success request.id
        (statusValue node.nodeId (.ofNat past.length) failed pending (lastRoot past)))
  | batches (past : List VerifiedBatch) (method : request.method = "getVerifiedBatches")
      (since : past <+: system.state.verifiedBatches) :
      Answered node disk system request
        (.success request.id (batchesValue past (limitParam request)))
  | attestation (batchId : String) (verified : VerifiedBatch)
      (method : request.method = "getAttestation") (named : batchIdParam request = some batchId)
      (first : attestedBatch system.state.verifiedBatches batchId = some verified) :
      Answered node disk system request (.success request.id (attestationValue verified))
  | notVerified (batchId : String) (past : List VerifiedBatch)
      (method : request.method = "getAttestation") (named : batchIdParam request = some batchId)
      (since : past <+: system.state.verifiedBatches) (absent : attestedBatch past batchId = none) :
      Answered node disk system request (.failure request.id "Batch not verified")
  | unknown (method : request.method ∉
        ["verifyBatch", "getStatus", "getVerifiedBatches", "getAttestation"]) :
      Answered node disk system request
        (.failure request.id ("Unknown method: " ++ request.method))

inductive Replied (node : VerifierNode) (parser : Parser) (disk : Disk) (system : System)
    (line : String) : Option RpcResponse → Prop where
  | announced (message : ProofMessage) (broadcast : broadcastOf parser line = some message) :
      Replied node parser disk system line none
  | unreadable (reason : String) (other : broadcastOf parser line = none)
      (unread : parser.request line = .error reason) :
      Replied node parser disk system line (some (.failure 0 ("Parse error: " ++ reason)))
  | answered (request : RpcRequest) (response : RpcResponse)
      (other : broadcastOf parser line = none) (read : parser.request line = .ok request)
      (answered : Answered node disk system request response) :
      Replied node parser disk system line (some response)

def taskNames (system : System) : List (Source × String) :=
  system.tasks.map fun task => (task.source, task.batchId)

inductive Handles (parser : Parser) (system : System) (line : String) : Job → Prop where
  | invalid (reason : String) (other : broadcastOf parser line = none)
      (unread : parser.request line = .error reason) :
      Handles parser system line (.invalid reason)
  | announce (message : ProofMessage) (broadcast : broadcastOf parser line = some message) :
      Handles parser system line (.announce message)
  | broadcasting (message : ProofMessage) (task : Nat)
      (broadcast : broadcastOf parser line = some message) :
      Handles parser system line (.broadcasting task)
  | dispatch (request : RpcRequest) (other : broadcastOf parser line = none)
      (read : parser.request line = .ok request) : Handles parser system line (.dispatch request)
  | verifying (request : RpcRequest) (batchId : String) (task : Nat)
      (other : broadcastOf parser line = none) (read : parser.request line = .ok request)
      (method : request.method = "verifyBatch") (named : batchIdParam request = some batchId)
      (started : (taskNames system)[task]? = some (.rpc, batchId)) :
      Handles parser system line (.verifying request.id task)

/-- What every state of the node says about its chain and its results. -/
structure Settled (system : System) : Prop where
  count : system.state.verificationCount = .ofNat system.state.verifiedBatches.length
  root : system.state.currentStateRoot = lastRoot system.state.verifiedBatches
  results : ∀ task ∈ system.tasks, ∀ verified, task.stage = .returned (.ok verified) →
    verified ∈ system.state.verifiedBatches

section Growth

variable {node : VerifierNode} {before middle after system : System}

theorem advance_stage (node : VerifierNode) {index : Nat} {task : Task} (readings : Readings)
    (found : system.tasks[index]? = some task) :
    ∃ stage, (step node system (.advance index readings)).tasks =
        system.tasks.set index { task with stage := stage } ∧
      ∀ verified, stage = .returned (.ok verified) →
        verified ∈ (step node system (.advance index readings)).state.verifiedBatches := by
  obtain ⟨source, batchId, stage⟩ := task
  simp only [step, found, System.advance]
  cases stage with
  | started =>
      cases system.disk (node.proofPath batchId) with
      | error reason => exact ⟨_, rfl, fun _ same => by cases same⟩
      | ok proofBytes => exact ⟨_, rfl, fun _ same => by cases same⟩
  | proofRead proofBytes =>
      cases system.disk (node.tracePath batchId) with
      | error reason => exact ⟨_, rfl, fun _ same => by cases same⟩
      | ok traceBytes => exact ⟨_, rfl, fun _ same => by cases same⟩
  | filesRead proofBytes traceBytes =>
      dsimp only
      cases returned : verifyBytes node readings proofBytes traceBytes system.state with
      | mk state result =>
          refine ⟨.returned result, rfl, ?_⟩
          intro verified same
          cases same
          obtain ⟨proof, trace, _, _, accepted⟩ := verify_bytes_ok_iff.mp returned
          obtain ⟨_, rfl, recorded⟩ := verify_proof_ok_iff.mp accepted
          simp only [recorded, VerifierState.record]
          exact List.mem_append_right _ (List.mem_singleton_self _)
  | returned result =>
      have tasks : (system.finish ⟨source, batchId, .returned result⟩ result).tasks =
          system.tasks := by
        unfold System.finish
        split <;> rfl
      refine ⟨.done, ?_, fun _ same => by cases same⟩
      simp only [System.setStage, tasks]
  | done =>
      refine ⟨.done, ?_, fun _ same => by cases same⟩
      exact (Library.TaskLists.set_found found).symm

theorem step_grows (node : VerifierNode) (system : System) (action : Action) :
    system.state.verifiedBatches <+: (step node system action).state.verifiedBatches := by
  obtain ⟨readings, proof, _, recorded⟩ | same := @step_cases node system action
  · rw [recorded]
    exact List.prefix_append _ _
  · simp only [same.verifiedBatches, List.prefix_refl]

theorem step_keeps_names (node : VerifierNode) (system : System) (action : Action) :
    taskNames system <+: taskNames (step node system action) := by
  have started (other : System) (source : Source) (batchId : String)
      (same : other.tasks = system.tasks) :
      taskNames system <+: taskNames (other.start source batchId) := by
    rw [taskNames, taskNames, System.start, same, List.map_append]
    exact List.prefix_append _ _
  cases action with
  | setFile name content => exact List.prefix_refl _
  | verifyBatch batchId => exact started _ _ _ rfl
  | proofBroadcast message => exact started _ _ _ rfl
  | pollEntry batchId =>
      rw [step]
      split_ifs
      · exact List.prefix_refl _
      · exact started _ _ _ rfl
  | advance index readings =>
      cases found : system.tasks[index]? with
      | none =>
          simp only [step, found]
          exact List.prefix_refl _
      | some task =>
          obtain ⟨stage, tasks, _⟩ := advance_stage node readings found
          have same : taskNames (step node system (.advance index readings)) =
              taskNames system := by
            rw [taskNames, taskNames, tasks]
            exact Library.TaskLists.map_set_same _ found rfl
          simp only [same, List.prefix_refl]

theorem later_grows (later : Later (step node) before after) :
    before.state.verifiedBatches <+: after.state.verifiedBatches ∧
      taskNames before <+: taskNames after :=
  ⟨later_extends (fun system => system.state.verifiedBatches) (step_grows node) later,
    later_extends taskNames (step_keeps_names node) later⟩

theorem step_keeps_settled (action : Action) (settled : Settled system) :
    Settled (step node system action) := by
  have chain : (step node system action).state.verificationCount =
        .ofNat (step node system action).state.verifiedBatches.length ∧
      (step node system action).state.currentStateRoot =
        lastRoot (step node system action).state.verifiedBatches := by
    obtain ⟨readings, proof, _, recorded⟩ | same := @step_cases node system action
    · rw [recorded]
      simp [VerifierState.record, lastRoot, settled.count, UInt64.ofNat_add]
    · rw [same.verificationCount, same.verifiedBatches, same.currentStateRoot]
      exact ⟨settled.count, settled.root⟩
  have more := (step_grows node system action).subset
  have started (other : System) (source : Source) (batchId : String)
      (same : other.tasks = system.tasks) :
      ∀ task ∈ (other.start source batchId).tasks, ∀ verified,
        task.stage = .returned (.ok verified) → task ∈ system.tasks := by
    intro task member verified returned
    rw [System.start, same] at member
    obtain old | new := List.mem_append.mp member
    · exact old
    · rw [List.mem_singleton.mp new] at returned
      cases returned
  refine ⟨chain.1, chain.2, ?_⟩
  intro task member verified returned
  cases action with
  | setFile name content => exact more (settled.results task member verified returned)
  | verifyBatch batchId =>
      exact more (settled.results task (started _ _ _ rfl task member verified returned)
        verified returned)
  | proofBroadcast message =>
      exact more (settled.results task (started _ _ _ rfl task member verified returned)
        verified returned)
  | pollEntry batchId =>
      rw [step] at member
      split_ifs at member
      · exact more (settled.results task member verified returned)
      · exact more (settled.results task (started _ _ _ rfl task member verified returned)
          verified returned)
  | advance index readings =>
      cases found : system.tasks[index]? with
      | none =>
          simp only [step, found] at member
          exact more (settled.results task member verified returned)
      | some current =>
          obtain ⟨stage, tasks, recorded⟩ := advance_stage node readings found
          rw [tasks] at member
          obtain old | rfl := List.mem_or_eq_of_mem_set member
          · exact more (settled.results task old verified returned)
          · exact recorded verified returned

theorem reached_settled {disk : Disk} (reached : Later (step node) (.init disk) after) :
    Settled after := by
  have start : Settled (System.init disk) :=
    ⟨rfl, rfl, fun task member => by cases member⟩
  exact later_invariant (fun _ action settled => step_keeps_settled action settled) start reached

theorem attested_batch_stays {earlier later : List VerifiedBatch} {batchId : String}
    {verified : VerifiedBatch} (grows : earlier <+: later)
    (first : attestedBatch earlier batchId = some verified) :
    attestedBatch later batchId = some verified := by
  obtain ⟨others, rfl⟩ := grows
  rw [attestedBatch] at first ⊢
  rw [List.find?_append, first]
  rfl

theorem answered_later {disk : Disk} {request : RpcRequest} {response : RpcResponse}
    (later : Later (step node) before after) (answered : Answered node disk before request response) :
    Answered node disk after request response := by
  have grows := (later_grows later).1
  cases answered with
  | verified batchId verified earlier method named reached since returned kept =>
      exact .verified batchId verified earlier method named reached (later_trans since later)
        returned (grows.subset kept)
  | unverified batchId reason earlier method named reached since returned =>
      exact .unverified batchId reason earlier method named reached (later_trans since later)
        returned
  | missing method unnamed => exact .missing method unnamed
  | status past failed pending method since =>
      exact .status past failed pending method (since.trans grows)
  | batches past method since => exact .batches past method (since.trans grows)
  | attestation batchId verified method named first =>
      exact .attestation batchId verified method named (attested_batch_stays grows first)
  | notVerified batchId past method named since absent =>
      exact .notVerified batchId past method named (since.trans grows) absent
  | unknown method => exact .unknown method

end Growth

/-! ## The handlers against the contract -/

/-- The handler goes on with its line, or ends with an answer to it, where the node
stands after this move. -/
def Serves (node : VerifierNode) (parser : Parser) (disk : Disk) (system : System) (line : String)
    (outcome : Option Action × Progress Job RpcResponse) : Prop :=
  outcome.2.Meets (Handles parser (take (step node) system outcome.1) line)
    (Replied node parser disk (take (step node) system outcome.1) line)

section Contract

variable {node : VerifierNode} {parser : Parser} {disk : Disk} {system : System} {line : String}
variable {request : RpcRequest}

theorem new_task_named (source : Source) (batchId : String) {before after : System}
    (started : after.tasks = before.tasks ++ [⟨source, batchId, .started⟩]) :
    (taskNames after)[before.tasks.length]? = some (source, batchId) := by
  rw [taskNames, started, List.getElem?_map, List.getElem?_concat_length]
  rfl

theorem name_stays {before after : System} {task : Nat} {name : Source × String}
    (later : Later (step node) before after) (started : (taskNames before)[task]? = some name) :
    (taskNames after)[task]? = some name := by
  obtain ⟨others, more⟩ := (later_grows later).2
  have bound := (List.getElem?_eq_some_iff.mp started).1
  rw [← more, List.getElem?_append_left bound]
  exact started

theorem rpc_serves (reached : Later (step node) (.init disk) system)
    (other : broadcastOf parser line = none) (read : parser.request line = .ok request) :
    Serves node parser disk system line (handleRpc node request system) := by
  have settled := reached_settled reached
  have respond (response : RpcResponse)
      (answered : Answered node disk system request response) :
      Serves node parser disk system line (none, .finished (some response)) :=
    .answered request response other read answered
  unfold handleRpc
  split_ifs with verifies status batches attestation
  · cases named : batchIdParam request with
    | none => exact respond _ (.missing (.inl verifies) named)
    | some batchId =>
        exact .verifying request batchId _ other read verifies named (new_task_named _ _ rfl)
  · rw [settled.count, settled.root]
    exact respond _ (.status system.state.verifiedBatches _ _ status (List.prefix_refl _))
  · exact respond _ (.batches system.state.verifiedBatches batches (List.prefix_refl _))
  · cases named : batchIdParam request with
    | none => exact respond _ (.missing (.inr attestation) named)
    | some batchId =>
        apply respond
        rw [attestationResponse]
        cases first : attestedBatch system.state.verifiedBatches batchId with
        | some verified => exact .attestation batchId verified attestation named first
        | none =>
            exact .notVerified batchId system.state.verifiedBatches attestation named
              (List.prefix_refl _) first
  · refine respond _ (.unknown ?_)
    simp [verifies, status, batches, attestation]

theorem await_serves {task : Nat} {job : Job}
    {respond : Except String VerifiedBatch → Option RpcResponse} (readings : Readings)
    (waits : Handles parser (step node system (.advance task readings)) line job)
    (replies : ∀ source batchId result,
      system.tasks[task]? = some ⟨source, batchId, .returned result⟩ →
      Replied node parser disk (step node system (.advance task readings)) line
        (respond result)) :
    Serves node parser disk system line (awaitVerification task readings system job respond) := by
  unfold awaitVerification
  split
  · rename_i result stage
    obtain ⟨found, held, returned⟩ := Option.map_eq_some_iff.mp stage
    obtain ⟨source, batchId, stage⟩ := found
    cases returned
    exact replies source batchId result held
  · exact waits

theorem verifying_serves {batchId : String} {task : Nat} (readings : Readings)
    (reached : Later (step node) (.init disk) system) (other : broadcastOf parser line = none)
    (read : parser.request line = .ok request) (method : request.method = "verifyBatch")
    (named : batchIdParam request = some batchId)
    (started : (taskNames system)[task]? = some (.rpc, batchId)) :
    Serves node parser disk system line
      (plan node system (.verifying request.id task) readings) := by
  have later := later_step (step node) system (.advance task readings)
  apply await_serves readings
    (.verifying request batchId task other read method named (name_stays later started))
  intro source name result found
  have own : (source, name) = (.rpc, batchId) := by
    rw [taskNames, List.getElem?_map, found] at started
    exact Option.some.inj started
  cases own
  have returned : Returned system batchId result := ⟨task, found⟩
  cases result with
  | error reason =>
      exact .answered request _ other read
        (.unverified batchId reason system method named reached later returned)
  | ok verified =>
      have recorded : verified ∈ system.state.verifiedBatches :=
        (reached_settled reached).results _ (List.mem_of_getElem? found) verified rfl
      exact .answered request _ other read
        (.verified batchId verified system method named reached later returned
          ((later_grows later).1.subset recorded))

theorem verifier_contract (node : VerifierNode) (parser : Parser) (disk : Disk) :
    Contract (server node parser) (Later (step node) (.init disk)) (Later (step node))
      (Handles parser) (Replied node parser disk) := by
  apply planner_contract
  case accepts =>
    intro system line
    simp only [planner, accept]
    cases broadcast : broadcastOf parser line with
    | some message => exact .announce message broadcast
    | none =>
        cases parsed : parser.request line with
        | error reason => exact .invalid reason broadcast parsed
        | ok request => exact .dispatch request broadcast parsed
  case plans =>
    intro system line job readings reached handles
    cases handles with
    | invalid reason other unread => exact .unreadable reason other unread
    | announce message broadcast => exact .broadcasting message _ broadcast
    | broadcasting message task broadcast =>
        apply await_serves readings (.broadcasting message task broadcast)
        intro source batchId result _
        exact .announced message broadcast
    | dispatch request other read => exact rpc_serves reached other read
    | verifying request batchId task other read method named started =>
        exact verifying_serves readings reached other read method named started
  case holds_later =>
    intro before after line job later handles
    cases handles with
    | invalid reason other unread => exact .invalid reason other unread
    | announce message broadcast => exact .announce message broadcast
    | broadcasting message task broadcast => exact .broadcasting message task broadcast
    | dispatch request other read => exact .dispatch request other read
    | verifying request batchId task other read method named started =>
        exact .verifying request batchId task other read method named (name_stays later started)
  case right_later =>
    intro before after line reply later replied
    cases replied with
    | announced message broadcast => exact .announced message broadcast
    | unreadable reason other unread => exact .unreadable reason other unread
    | answered request response other read answered =>
        exact .answered request response other read (answered_later later answered)

theorem attestation_answer {batchId : String} {response : RpcResponse}
    (replied : Replied node parser disk system line (some response))
    (read : parser.request line = .ok request)
    (method : request.method = "getAttestation") (named : batchIdParam request = some batchId)
    (success : response.error = none) :
    (attestedBatch system.state.verifiedBatches batchId).map attestationValue =
      some response.result := by
  cases replied with
  | unreadable reason _ unread => cases success
  | answered asked _ _ parsed answered =>
      cases read.symm.trans parsed
      cases answered with
      | attestation askedId verified _ asks first =>
          cases named.symm.trans asks
          rw [first]
          rfl
      | verified _ _ _ otherMethod => simp [method] at otherMethod
      | status _ _ _ otherMethod => simp [method] at otherMethod
      | batches _ otherMethod => simp [method] at otherMethod
      | _ => cases success

end Contract

/-- Any number of connections against one verifier node, with its poller and with
files that change, in any interleaving. The node only makes steps of its own
transition system. Each connection gets its responses in the order of its requests,
none lost, repeated or crossed, and none for a broadcast. Every response is about its
line and stays true, and all that ever ask for the attestation of a batch and
get one get the same. -/
theorem verifier_connections_are_answered (node : VerifierNode) (parser : Parser) (disk : Disk)
    (actions : List (Library.Connections.Action String Readings Event)) (count : Nat) :
    let service := stateAfter (Library.Connections.step (server node parser))
      (.init (.init disk)) actions count
    Later (step node) (.init disk) service.backend ∧
      (∀ index connection, service.connections[index]? = some connection →
        Ordered (linesOf service.log index) (repliesOf service.log index) connection) ∧
      (∀ entry ∈ service.log,
        Replied node parser disk service.backend entry.line entry.reply) ∧
      ∃ given : String → Option Value, ∀ entry ∈ service.log, ∀ request batchId response,
        parser.request entry.line = .ok request →
        request.method = "getAttestation" → batchIdParam request = some batchId →
        entry.reply = some response → response.error = none →
        given batchId = some response.result := by
  intro service
  have served := served_always (verifier_contract node parser disk) (later_refl _ (System.init disk))
    actions count
  have ordered := in_order_always (server node parser) (.init disk) actions count
  refine ⟨served.inv, ordered.ordered, served.log,
    fun batchId => (attestedBatch service.backend.state.verifiedBatches batchId).map
      attestationValue, ?_⟩
  intro entry member request batchId response read method named reply success
  have replied := served.log entry member
  rw [reply] at replied
  exact attestation_answer replied read method named success

end CatalystSvm.VerifierService
