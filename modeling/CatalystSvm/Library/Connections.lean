import CatalystSvm.Library.Runs

/-!
# Connections to a shared backend

A server reads the lines of each of its connections one by one. It handles a
line in steps that may change the backend, writes at most one reply and only
then reads on. Connections are served concurrently, and the backend also moves
on its own. What a handler relies on is that the others only let the backend grow.
-/

namespace CatalystSvm.Library.Connections

open CatalystSvm.Library.Runs

set_option autoImplicit false

inductive Progress (Job Reply : Type*) where
  | working (job : Job)
  | finished (reply : Option Reply)
  | crashed

structure Server (Backend Line Job Reply Input Event : Type*) where
  accept : Line → Job
  work : Backend → Job → Input → Backend × Progress Job Reply
  move : Backend → Event → Backend

inductive Phase (Line Job Reply : Type*) where
  | idle
  | working (line : Line) (job : Job)
  | replying (reply : Reply)
  | closed

structure Connection (Line Job Reply : Type*) where
  received : List Line
  sent : List Reply
  phase : Phase Line Job Reply

structure Handled (Line Reply : Type*) where
  connection : Nat
  line : Line
  reply : Option Reply

/-- `log` is the history of the handled lines of all connections. -/
structure Service (Backend Line Job Reply : Type*) where
  backend : Backend
  connections : List (Connection Line Job Reply)
  log : List (Handled Line Reply)

inductive Action (Line Input Event : Type*) where
  | connect
  | receive (connection : Nat) (line : Line)
  | work (connection : Nat) (input : Input)
  | write (connection : Nat) (complete : Bool)
  | hangUp (connection : Nat)
  | move (event : Event)

variable {Backend Line Job Reply Input Event : Type*}

def Service.init (backend : Backend) : Service Backend Line Job Reply where
  backend := backend
  connections := []
  log := []

def Phase.afterFinish : Option Reply → Phase Line Job Reply
  | none => .idle
  | some reply => .replying reply

def Service.replace (service : Service Backend Line Job Reply) (index : Nat)
    (connection : Connection Line Job Reply) : Service Backend Line Job Reply :=
  { service with connections := service.connections.set index connection }

def Service.work (server : Server Backend Line Job Reply Input Event)
    (service : Service Backend Line Job Reply) (index : Nat) (input : Input)
    (received : List Line) (sent : List Reply) (line : Line) (job : Job) :
    Service Backend Line Job Reply :=
  match server.work service.backend job input with
  | (backend, .working next) =>
      { service.replace index ⟨received, sent, .working line next⟩ with backend := backend }
  | (backend, .finished reply) =>
      { service.replace index ⟨received, sent, .afterFinish reply⟩ with
        backend := backend
        log := service.log ++ [⟨index, line, reply⟩] }
  | (backend, .crashed) =>
      { service.replace index ⟨received, sent, .closed⟩ with backend := backend }

/-- One action. What cannot happen in a state leaves it unchanged. -/
def step (server : Server Backend Line Job Reply Input Event)
    (service : Service Backend Line Job Reply) :
    Action Line Input Event → Service Backend Line Job Reply
  | .connect => { service with connections := service.connections ++ [⟨[], [], .idle⟩] }
  | .receive index line =>
      match service.connections[index]? with
      | some ⟨received, sent, .idle⟩ =>
          service.replace index ⟨received ++ [line], sent, .working line (server.accept line)⟩
      | _ => service
  | .work index input =>
      match service.connections[index]? with
      | some ⟨received, sent, .working line job⟩ =>
          service.work server index input received sent line job
      | _ => service
  | .write index complete =>
      match service.connections[index]? with
      | some ⟨received, sent, .replying reply⟩ =>
          if complete then service.replace index ⟨received, sent ++ [reply], .idle⟩
          else service.replace index ⟨received, sent, .closed⟩
      | _ => service
  | .hangUp index =>
      match service.connections[index]? with
      | some ⟨received, sent, .idle⟩ => service.replace index ⟨received, sent, .closed⟩
      | _ => service
  | .move event => { service with backend := server.move service.backend event }

/-! ## What a step is made of -/

/-- How one connection changes, next to what is logged for it. -/
inductive Turn (server : Server Backend Line Job Reply Input Event) (backend : Backend) :
    Backend → Connection Line Job Reply → Connection Line Job Reply →
      List (Line × Option Reply) → Prop where
  | received {received : List Line} {sent : List Reply} (line : Line) :
      Turn server backend backend ⟨received, sent, .idle⟩
        ⟨received ++ [line], sent, .working line (server.accept line)⟩ []
  | worked {received : List Line} {sent : List Reply} {line : Line} {job next : Job}
      {after : Backend} (input : Input)
      (result : server.work backend job input = (after, .working next)) :
      Turn server backend after ⟨received, sent, .working line job⟩
        ⟨received, sent, .working line next⟩ []
  | finished {received : List Line} {sent : List Reply} {line : Line} {job : Job}
      {reply : Option Reply} {after : Backend} (input : Input)
      (result : server.work backend job input = (after, .finished reply)) :
      Turn server backend after ⟨received, sent, .working line job⟩
        ⟨received, sent, .afterFinish reply⟩ [(line, reply)]
  | crashed {received : List Line} {sent : List Reply} {line : Line} {job : Job}
      {after : Backend} (input : Input)
      (result : server.work backend job input = (after, .crashed)) :
      Turn server backend after ⟨received, sent, .working line job⟩ ⟨received, sent, .closed⟩ []
  | written {received : List Line} {sent : List Reply} {reply : Reply} :
      Turn server backend backend ⟨received, sent, .replying reply⟩
        ⟨received, sent ++ [reply], .idle⟩ []
  | unwritten {received : List Line} {sent : List Reply} {reply : Reply} :
      Turn server backend backend ⟨received, sent, .replying reply⟩ ⟨received, sent, .closed⟩ []
  | hungUp {received : List Line} {sent : List Reply} :
      Turn server backend backend ⟨received, sent, .idle⟩ ⟨received, sent, .closed⟩ []

inductive Stepped (server : Server Backend Line Job Reply Input Event)
    (service : Service Backend Line Job Reply) : Service Backend Line Job Reply → Prop where
  | idle : Stepped server service service
  | connected : Stepped server service
      { service with connections := service.connections ++ [⟨[], [], .idle⟩] }
  | moved (event : Event) : Stepped server service
      { service with backend := server.move service.backend event }
  | turned {index : Nat} {before after : Connection Line Job Reply} {backend : Backend}
      {logged : List (Line × Option Reply)} (found : service.connections[index]? = some before)
      (turn : Turn server service.backend backend before after logged) :
      Stepped server service
        ⟨backend, service.connections.set index after,
          service.log ++ logged.map fun pair => ⟨index, pair.1, pair.2⟩⟩

section Steps

variable {server : Server Backend Line Job Reply Input Event}
variable {service : Service Backend Line Job Reply}

theorem quiet_turn {index : Nat} {before after : Connection Line Job Reply}
    (found : service.connections[index]? = some before)
    (turn : Turn server service.backend service.backend before after []) :
    Stepped server service (service.replace index after) := by
  have turned := Stepped.turned found turn
  rw [List.map_nil, List.append_nil] at turned
  exact turned

theorem work_stepped {index : Nat} {received : List Line} {sent : List Reply} {line : Line}
    {job : Job} (input : Input)
    (found : service.connections[index]? = some ⟨received, sent, .working line job⟩) :
    Stepped server service (service.work server index input received sent line job) := by
  cases result : server.work service.backend job input with
  | mk backend progress =>
      cases progress with
      | working next =>
          have turned := Stepped.turned found (Turn.worked input result)
          rw [List.map_nil, List.append_nil] at turned
          simp only [Service.work, result]
          exact turned
      | finished reply =>
          simp only [Service.work, result]
          exact Stepped.turned found (Turn.finished input result)
      | crashed =>
          have turned := Stepped.turned found (Turn.crashed input result)
          rw [List.map_nil, List.append_nil] at turned
          simp only [Service.work, result]
          exact turned

theorem step_stepped (server : Server Backend Line Job Reply Input Event)
    (service : Service Backend Line Job Reply) (action : Action Line Input Event) :
    Stepped server service (step server service action) := by
  cases action with
  | connect => exact .connected
  | move event => exact .moved event
  | receive index line =>
      simp only [step]
      split
      · rename_i found
        exact quiet_turn found (.received line)
      · exact .idle
  | work index input =>
      simp only [step]
      split
      · rename_i found
        exact work_stepped input found
      · exact .idle
  | write index complete =>
      simp only [step]
      split
      · rename_i found
        cases complete with
        | true => exact quiet_turn found .written
        | false => exact quiet_turn found .unwritten
      · exact .idle
  | hangUp index =>
      simp only [step]
      split
      · rename_i found
        exact quiet_turn found .hungUp
      · exact .idle

end Steps

theorem step_log (server : Server Backend Line Job Reply Input Event)
    (service : Service Backend Line Job Reply) (action : Action Line Input Event) :
    (step server service action).log = service.log ∨
      ∃ index connection line job input reply,
        service.connections[index]? = some connection ∧ connection.phase = .working line job ∧
          server.work service.backend job input =
            ((step server service action).backend, .finished reply) ∧
          (step server service action).log = service.log ++ [⟨index, line, reply⟩] := by
  have stepped := step_stepped server service action
  generalize step server service action = after at stepped
  cases stepped with
  | idle => exact .inl rfl
  | connected => exact .inl rfl
  | moved event => exact .inl rfl
  | @turned index before replaced backend logged found turn =>
      cases turn with
      | finished input result => exact .inr ⟨index, _, _, _, input, _, found, rfl, result, rfl⟩
      | _ => exact .inl (List.append_nil _)

/-! ## Order on each connection -/

def linesOf (log : List (Handled Line Reply)) (index : Nat) : List Line :=
  (log.filter fun entry => entry.connection == index).map Handled.line

def repliesOf (log : List (Handled Line Reply)) (index : Nat) : List Reply :=
  (log.filter fun entry => entry.connection == index).filterMap Handled.reply

/-- A connection against what was handled for it: every line but the one in hand,
and every reply but the one in hand. -/
inductive Ordered (lines : List Line) (replies : List Reply) :
    Connection Line Job Reply → Prop where
  | idle : Ordered lines replies ⟨lines, replies, .idle⟩
  | working (line : Line) (job : Job) :
      Ordered lines replies ⟨lines ++ [line], replies, .working line job⟩
  | replying (sent : List Reply) (reply : Reply) (last : replies = sent ++ [reply]) :
      Ordered lines replies ⟨lines, sent, .replying reply⟩
  | hungUp : Ordered lines replies ⟨lines, replies, .closed⟩
  | crashed (line : Line) : Ordered lines replies ⟨lines ++ [line], replies, .closed⟩
  | unwritten (sent : List Reply) (reply : Reply) (last : replies = sent ++ [reply]) :
      Ordered lines replies ⟨lines, sent, .closed⟩

structure InOrder (service : Service Backend Line Job Reply) : Prop where
  known : ∀ entry ∈ service.log, entry.connection < service.connections.length
  ordered : ∀ index connection, service.connections[index]? = some connection →
    Ordered (linesOf service.log index) (repliesOf service.log index) connection

theorem lines_of_append (log : List (Handled Line Reply)) (logged : List (Line × Option Reply))
    (index other : Nat) :
    linesOf (log ++ logged.map fun pair => ⟨index, pair.1, pair.2⟩) other =
      linesOf log other ++ if index = other then logged.map Prod.fst else [] := by
  rw [linesOf, List.filter_append, List.map_append, List.filter_map, linesOf]
  by_cases same : index = other
  · simp [same, Function.comp_def]
  · simp [same, Function.comp_def]

theorem replies_of_append (log : List (Handled Line Reply)) (logged : List (Line × Option Reply))
    (index other : Nat) :
    repliesOf (log ++ logged.map fun pair => ⟨index, pair.1, pair.2⟩) other =
      repliesOf log other ++ if index = other then logged.filterMap Prod.snd else [] := by
  rw [repliesOf, List.filter_append, List.filterMap_append, List.filter_map, repliesOf]
  by_cases same : index = other
  · simp [same, Function.comp_def, List.filterMap_map]
  · simp [same, Function.comp_def]

section Order

variable {server : Server Backend Line Job Reply Input Event}
variable {service after : Service Backend Line Job Reply}

theorem turn_keeps_order {backend next : Backend} {before after : Connection Line Job Reply}
    {logged : List (Line × Option Reply)} {lines : List Line} {replies : List Reply}
    (turn : Turn server backend next before after logged)
    (ordered : Ordered lines replies before) :
    Ordered (lines ++ logged.map Prod.fst) (replies ++ logged.filterMap Prod.snd) after := by
  cases turn with
  | received line =>
      cases ordered
      simp only [List.map_nil, List.filterMap_nil, List.append_nil]
      exact .working line _
  | worked input result =>
      cases ordered
      simp only [List.map_nil, List.filterMap_nil, List.append_nil]
      exact .working _ _
  | @finished received sent line job reply after input result =>
      cases ordered
      cases reply with
      | none =>
          simp only [List.map_cons, List.map_nil, List.filterMap_cons, List.filterMap_nil,
            List.append_nil, Phase.afterFinish]
          exact .idle
      | some reply =>
          simp only [List.map_cons, List.map_nil, List.filterMap_cons, List.filterMap_nil,
            Phase.afterFinish]
          exact .replying _ reply rfl
  | crashed input result =>
      cases ordered
      simp only [List.map_nil, List.filterMap_nil, List.append_nil]
      exact .crashed _
  | written =>
      cases ordered with
      | replying sent reply last =>
          simp only [List.map_nil, List.filterMap_nil, List.append_nil, last]
          exact .idle
  | unwritten =>
      cases ordered with
      | replying sent reply last =>
          simp only [List.map_nil, List.filterMap_nil, List.append_nil]
          exact .unwritten _ _ last
  | hungUp =>
      cases ordered
      simp only [List.map_nil, List.filterMap_nil, List.append_nil]
      exact .hungUp

theorem stepped_keeps_order (stepped : Stepped server service after) (order : InOrder service) :
    InOrder after := by
  cases stepped with
  | idle => exact order
  | moved event => exact ⟨order.known, order.ordered⟩
  | connected =>
      constructor
      case known =>
        intro entry member
        rw [List.length_append]
        exact Nat.lt_add_right _ (order.known entry member)
      case ordered =>
        intro index connection found
        by_cases old : index < service.connections.length
        · rw [List.getElem?_append_left old] at found
          exact order.ordered index connection found
        · have last : index = service.connections.length := by
            have bound := (List.getElem?_eq_some_iff.mp found).1
            rw [List.length_append, List.length_singleton] at bound
            omega
          rw [last, List.getElem?_concat_length] at found
          have fresh : service.log.filter (fun entry => entry.connection == index) = [] := by
            rw [List.filter_eq_nil_iff]
            intro entry member own
            have known := order.known entry member
            rw [beq_iff_eq] at own
            omega
          rw [linesOf, repliesOf, fresh]
          cases found
          exact .idle
  | @turned index before replaced backend logged found turn =>
      have bound := (List.getElem?_eq_some_iff.mp found).1
      constructor
      case known =>
        intro entry member
        rw [List.length_set]
        obtain old | new := List.mem_append.mp member
        · exact order.known entry old
        · obtain ⟨pair, _, rfl⟩ := List.mem_map.mp new
          exact bound
      case ordered =>
        intro other connection held
        rw [lines_of_append, replies_of_append]
        by_cases same : index = other
        · subst same
          rw [List.getElem?_set_self bound] at held
          cases held
          rw [if_pos rfl, if_pos rfl]
          exact turn_keeps_order turn (order.ordered index before found)
        · rw [List.getElem?_set_ne same] at held
          rw [if_neg same, if_neg same, List.append_nil, List.append_nil]
          exact order.ordered other connection held

/-- In every interleaving each connection is answered in the order of its lines,
with no reply lost, repeated or crossed before the connection closes. -/
theorem in_order_always (server : Server Backend Line Job Reply Input Event) (backend : Backend)
    (actions : List (Action Line Input Event)) :
    Always (step server) (.init backend) actions InOrder := by
  have free : EachStep (step server) (Service.init backend) actions fun _ _ => True :=
    fun _ _ _ => trivial
  have start : InOrder (Service.init backend : Service Backend Line Job Reply) :=
    ⟨fun _ member => (nomatch member), fun _ _ found => (nomatch found)⟩
  exact always_of_each_step start
    (fun _ action order _ => stepped_keeps_order (step_stepped _ _ action) order) free

end Order

/-! ## What handlers rely on -/

def Progress.Meets (Holds : Job → Prop) (Right : Option Reply → Prop) : Progress Job Reply → Prop
  | .working job => Holds job
  | .finished reply => Right reply
  | .crashed => True

/-- A handler keeps what it knows of its line as the backend grows, and ends in a
reply that stays right. -/
structure Contract (server : Server Backend Line Job Reply Input Event)
    (Inv : Backend → Prop) (Grows : Backend → Backend → Prop)
    (Holds : Backend → Line → Job → Prop) (Right : Backend → Line → Option Reply → Prop) :
    Prop where
  accepts : ∀ backend line, Inv backend → Holds backend line (server.accept line)
  works : ∀ backend line job input, Inv backend → Holds backend line job →
    Inv (server.work backend job input).1 ∧ Grows backend (server.work backend job input).1 ∧
      (server.work backend job input).2.Meets (Holds (server.work backend job input).1 line)
        (Right (server.work backend job input).1 line)
  moves : ∀ backend event, Inv backend →
    Inv (server.move backend event) ∧ Grows backend (server.move backend event)
  holds_grows : ∀ before after line job, Grows before after → Holds before line job →
    Holds after line job
  right_grows : ∀ before after line reply, Grows before after → Right before line reply →
    Right after line reply

structure Served (Inv : Backend → Prop) (Holds : Backend → Line → Job → Prop)
    (Right : Backend → Line → Option Reply → Prop) (service : Service Backend Line Job Reply) :
    Prop where
  inv : Inv service.backend
  jobs : ∀ connection ∈ service.connections, ∀ line job, connection.phase = .working line job →
    Holds service.backend line job
  log : ∀ entry ∈ service.log, Right service.backend entry.line entry.reply

section Reliance

variable {server : Server Backend Line Job Reply Input Event}
variable {Inv : Backend → Prop} {Grows : Backend → Backend → Prop}
variable {Holds : Backend → Line → Job → Prop} {Right : Backend → Line → Option Reply → Prop}
variable {service after : Service Backend Line Job Reply}

theorem turn_meets {backend next : Backend} {before after : Connection Line Job Reply}
    {logged : List (Line × Option Reply)} (contract : Contract server Inv Grows Holds Right)
    (inv : Inv backend) (holds : ∀ line job, before.phase = .working line job →
      Holds backend line job)
    (turn : Turn server backend next before after logged) :
    Inv next ∧ (next = backend ∨ Grows backend next) ∧
      (∀ line job, after.phase = .working line job → Holds next line job) ∧
      ∀ pair ∈ logged, Right next pair.1 pair.2 := by
  cases turn with
  | received line =>
      refine ⟨inv, .inl rfl, ?_, by simp⟩
      intro other job same
      cases same
      exact contract.accepts _ _ inv
  | @worked _ _ line job found _ input result =>
      have worked := contract.works backend line job input inv (holds _ _ rfl)
      rw [result] at worked
      refine ⟨worked.1, .inr worked.2.1, ?_, by simp⟩
      intro other job same
      cases same
      exact worked.2.2
  | @finished _ _ line job reply _ input result =>
      have worked := contract.works backend line job input inv (holds _ _ rfl)
      rw [result] at worked
      refine ⟨worked.1, .inr worked.2.1, ?_, ?_⟩
      · intro other job same
        cases reply <;> cases same
      · intro pair member
        rw [List.mem_singleton.mp member]
        exact worked.2.2
  | @crashed _ _ line job _ input result =>
      have worked := contract.works backend line job input inv (holds _ _ rfl)
      rw [result] at worked
      exact ⟨worked.1, .inr worked.2.1, fun _ _ same => (nomatch same), by simp⟩
  | written => exact ⟨inv, .inl rfl, fun _ _ same => (nomatch same), by simp⟩
  | unwritten => exact ⟨inv, .inl rfl, fun _ _ same => (nomatch same), by simp⟩
  | hungUp => exact ⟨inv, .inl rfl, fun _ _ same => (nomatch same), by simp⟩

theorem stepped_keeps_served (contract : Contract server Inv Grows Holds Right)
    (stepped : Stepped server service after) (served : Served Inv Holds Right service) :
    Served Inv Holds Right after := by
  cases stepped with
  | idle => exact served
  | connected =>
      refine ⟨served.inv, ?_, served.log⟩
      intro connection member line job working
      obtain old | new := List.mem_append.mp member
      · exact served.jobs connection old line job working
      · rw [List.mem_singleton.mp new] at working
        cases working
  | moved event =>
      obtain ⟨inv, grows⟩ := contract.moves _ event served.inv
      refine ⟨inv, ?_, ?_⟩
      · intro connection member line job working
        exact contract.holds_grows _ _ _ _ grows
          (served.jobs connection member line job working)
      · intro entry member
        exact contract.right_grows _ _ _ _ grows (served.log entry member)
  | @turned index before replaced backend logged found turn =>
      obtain ⟨inv, grown, holds, right⟩ := turn_meets contract served.inv
        (served.jobs before (List.mem_of_getElem? found)) turn
      have keeps (line : Line) (job : Job) (held : Holds service.backend line job) :
          Holds backend line job := by
        obtain rfl | grows := grown
        · exact held
        · exact contract.holds_grows _ _ _ _ grows held
      have stays (line : Line) (reply : Option Reply) (held : Right service.backend line reply) :
          Right backend line reply := by
        obtain rfl | grows := grown
        · exact held
        · exact contract.right_grows _ _ _ _ grows held
      refine ⟨inv, ?_, ?_⟩
      · intro connection member line job working
        obtain old | rfl := List.mem_or_eq_of_mem_set member
        · exact keeps line job (served.jobs connection old line job working)
        · exact holds line job working
      · intro entry member
        obtain old | new := List.mem_append.mp member
        · exact stays _ _ (served.log entry old)
        · obtain ⟨pair, listed, rfl⟩ := List.mem_map.mp new
          exact right pair listed

/-- Under a contract every reply that was ever made is right, and stays right. -/
theorem served_always (contract : Contract server Inv Grows Holds Right) {backend : Backend}
    (inv : Inv backend) (actions : List (Action Line Input Event)) :
    Always (step server) (.init backend) actions (Served Inv Holds Right) := by
  have free : EachStep (step server) (Service.init backend) actions fun _ _ => True :=
    fun _ _ _ => trivial
  have start : Served Inv Holds Right (.init backend) :=
    ⟨inv, fun _ member => (nomatch member), fun _ member => (nomatch member)⟩
  exact always_of_each_step start
    (fun _ action served _ => stepped_keeps_served contract (step_stepped _ _ action) served) free

end Reliance

/-! ## A transition system as the backend -/

/-- A server over a transition system: each step of a handler is at most one move of it. -/
structure Planner (Backend Line Job Reply Input Event Move : Type*) where
  accept : Line → Job
  plan : Backend → Job → Input → Option Move × Progress Job Reply
  own : Backend → Event → Option Move

variable {Move : Type*}

def take (advance : Backend → Move → Backend) (backend : Backend) : Option Move → Backend
  | none => backend
  | some move => advance backend move

@[simp] theorem take_none (advance : Backend → Move → Backend) (backend : Backend) :
    take advance backend none = backend := rfl

@[simp] theorem take_some (advance : Backend → Move → Backend) (backend : Backend) (move : Move) :
    take advance backend (some move) = advance backend move := rfl

def Planner.server (planner : Planner Backend Line Job Reply Input Event Move)
    (advance : Backend → Move → Backend) : Server Backend Line Job Reply Input Event where
  accept := planner.accept
  work backend job input :=
    (take advance backend (planner.plan backend job input).1,
      (planner.plan backend job input).2)
  move backend event := take advance backend (planner.own backend event)

def Planner.moved (planner : Planner Backend Line Job Reply Input Event Move)
    (service : Service Backend Line Job Reply) : Action Line Input Event → Option Move
  | .work index input =>
      match service.connections[index]? with
      | some ⟨_, _, .working _ job⟩ => (planner.plan service.backend job input).1
      | _ => none
  | .move event => planner.own service.backend event
  | _ => none

section Planners

theorem later_take (advance : Backend → Move → Backend) (backend : Backend) (move : Option Move) :
    Later advance backend (take advance backend move) := by
  cases move with
  | none => exact later_refl advance backend
  | some move => exact later_step advance backend move

variable {planner : Planner Backend Line Job Reply Input Event Move}
variable {Holds : Backend → Line → Job → Prop} {Right : Backend → Line → Option Reply → Prop}

theorem planner_contract (advance : Backend → Move → Backend) (start : Backend)
    (accepts : ∀ backend line, Holds backend line (planner.accept line))
    (plans : ∀ backend line job input, Later advance start backend → Holds backend line job →
      (planner.plan backend job input).2.Meets
        (Holds (take advance backend (planner.plan backend job input).1) line)
        (Right (take advance backend (planner.plan backend job input).1) line))
    (holds_later : ∀ before after line job, Later advance before after →
      Holds before line job → Holds after line job)
    (right_later : ∀ before after line reply, Later advance before after →
      Right before line reply → Right after line reply) :
    Contract (planner.server advance) (Later advance start) (Later advance) Holds Right where
  accepts backend line _ := accepts backend line
  works backend line job input reached holds :=
    ⟨later_trans reached (later_take advance backend _), later_take advance backend _,
      plans backend line job input reached holds⟩
  moves backend _ reached :=
    ⟨later_trans reached (later_take advance backend _), later_take advance backend _⟩
  holds_grows := holds_later
  right_grows := right_later

theorem work_backend (advance : Backend → Move → Backend)
    (service : Service Backend Line Job Reply) (index : Nat) (input : Input)
    (received : List Line) (sent : List Reply) (line : Line) (job : Job) :
    (service.work (planner.server advance) index input received sent line job).backend =
      take advance service.backend (planner.plan service.backend job input).1 := by
  simp only [Service.work, Planner.server]
  cases (planner.plan service.backend job input).2 <;> rfl

theorem step_backend (advance : Backend → Move → Backend)
    (service : Service Backend Line Job Reply) (action : Action Line Input Event) :
    (step (planner.server advance) service action).backend =
      take advance service.backend (planner.moved service action) := by
  cases action with
  | work index input =>
      simp only [step, Planner.moved]
      split
      · exact work_backend advance service index input _ _ _ _
      · rfl
  | receive index line =>
      simp only [step, Planner.moved, take_none]
      split <;> rfl
  | write index complete =>
      simp only [step, Planner.moved, take_none]
      split
      · split_ifs <;> rfl
      · rfl
  | hangUp index =>
      simp only [step, Planner.moved, take_none]
      split <;> rfl
  | connect => rfl
  | move event => rfl

end Planners

/-! ## Replies that account for the backend -/

def Progress.counted {Item : Type*} (counts : Line → Option Reply → List Item) (line : Line) :
    Progress Job Reply → List Item
  | .finished reply => counts line reply
  | _ => []

/-- Whatever the backend accounts for is the result of one handled line. -/
structure Accounts {Item : Type*} (server : Server Backend Line Job Reply Input Event)
    (Holds : Backend → Line → Job → Prop) (Inv : Backend → Prop)
    (account : Backend → List Item) (counts : Line → Option Reply → List Item) : Prop where
  works : ∀ backend line job input, Inv backend → Holds backend line job →
    account (server.work backend job input).1 =
      account backend ++ (server.work backend job input).2.counted counts line
  moves : ∀ backend event, account (server.move backend event) = account backend

section Accounting

variable {Item : Type*} {server : Server Backend Line Job Reply Input Event}
variable {Inv : Backend → Prop} {Grows : Backend → Backend → Prop}
variable {Holds : Backend → Line → Job → Prop} {Right : Backend → Line → Option Reply → Prop}
variable {account : Backend → List Item} {counts : Line → Option Reply → List Item}
variable {service after : Service Backend Line Job Reply}

theorem turn_accounts {backend next : Backend} {before after : Connection Line Job Reply}
    {logged : List (Line × Option Reply)} (accounts : Accounts server Holds Inv account counts)
    (inv : Inv backend) (holds : ∀ line job, before.phase = .working line job →
      Holds backend line job)
    (turn : Turn server backend next before after logged) :
    account next = account backend ++ logged.flatMap fun pair => counts pair.1 pair.2 := by
  cases turn with
  | @worked _ _ line job found _ input result =>
      have worked := accounts.works backend line job input inv (holds _ _ rfl)
      rw [result] at worked
      exact worked
  | @finished _ _ line job reply _ input result =>
      have worked := accounts.works backend line job input inv (holds _ _ rfl)
      rw [result] at worked
      rw [List.flatMap_cons, List.flatMap_nil, List.append_nil]
      exact worked
  | @crashed _ _ line job _ input result =>
      have worked := accounts.works backend line job input inv (holds _ _ rfl)
      rw [result] at worked
      exact worked
  | received line => exact (List.append_nil _).symm
  | written => exact (List.append_nil _).symm
  | unwritten => exact (List.append_nil _).symm
  | hungUp => exact (List.append_nil _).symm

theorem account_always (accounts : Accounts server Holds Inv account counts)
    {backend : Backend} {actions : List (Action Line Input Event)}
    (served : Always (step server) (.init backend) actions (Served Inv Holds Right)) :
    Always (step server) (.init backend) actions (fun service =>
      account service.backend = account backend ++
        service.log.flatMap fun entry => counts entry.line entry.reply) := by
  have kept (service : Service Backend Line Job Reply) (action : Action Line Input Event)
      (balanced : account service.backend = account backend ++
        service.log.flatMap fun entry => counts entry.line entry.reply)
      (here : Served Inv Holds Right service) :
      account (step server service action).backend = account backend ++
        (step server service action).log.flatMap fun entry =>
          counts entry.line entry.reply := by
    have stepped := step_stepped server service action
    generalize step server service action = after at stepped
    cases stepped with
    | idle => exact balanced
    | connected => exact balanced
    | moved event => exact (accounts.moves _ event).trans balanced
    | @turned index before replaced next logged found turn =>
        have turned := turn_accounts accounts here.inv
          (here.jobs before (List.mem_of_getElem? found)) turn
        rw [List.flatMap_append, List.flatMap_map, ← List.append_assoc, ← balanced]
        exact turned
  have allowed : EachStep (step server) (Service.init backend) actions
      fun service _ => Served Inv Holds Right service := fun count _ _ => served count
  have start : account backend = account backend ++
      ([] : List (Handled Line Reply)).flatMap fun entry => counts entry.line entry.reply :=
    (List.append_nil _).symm
  exact always_of_each_step start kept allowed

end Accounting

end CatalystSvm.Library.Connections
