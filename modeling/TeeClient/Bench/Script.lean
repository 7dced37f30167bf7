import TeeClient.SecureWorld.App
import TeeClient.Table
import TeeClient.Uuid.Text

/-!
# Scripted applications

A trusted application given as lists of steps, one list for each entry point. A step asks the secure
world or acts on the call and then notes what it saw. A step that is refused, or that is there to
fail, ends the run with its status unless it is marked to be ignored.
-/

namespace TeeClient.Bench

/-- What a step does. -/
inductive Action
  | paramType (slot : Nat)
  | value (slot : Nat)
  | setValue (slot : Nat) (a b : UInt32)
  /-- The pair (a, b) becomes (a + b, b). -/
  | add (slot : Nat)
  /-- The login becomes the pair of a slot. -/
  | setLogin (slot : Nat)
  /-- The instance counts one more and puts its count in a slot. -/
  | count (slot : Nat)
  | capacity (slot : Nat)
  | mapped (slot : Nat)
  | read (slot : Nat)
  | write (slot : Nat) (data : Bytes)
  /-- The bytes of one buffer go into another. -/
  | copy (slot target : Nat)
  | reverse (slot : Nat)
  | outputSize (slot : Nat) (size : UInt32)
  | isCancelled
  | login
  | destination
  | cancel (token : String)
  | fail (code : Status)
  | failIfCancelled (code : Status)
  | panic

/-- A step of a script. -/
structure ScriptStep where
  /-- What it does. -/
  action : Action
  /-- Its failure does not end the run. -/
  ignore : Bool

/-- The scripts of a trusted application. -/
structure Script where
  /-- Only commands have entry points; opening and closing succeed unnoticed. -/
  plain : Bool
  /-- The script of the open entry point. -/
  opening : List ScriptStep
  /-- The script of the close entry point. -/
  closing : List ScriptStep
  /-- The scripts of single commands. -/
  commands : Table UInt32 (List ScriptStep)
  /-- The script of all other commands. -/
  other : List ScriptStep

namespace Script

/-- Note a step. -/
def note (name : String) (shown : Shown) (next : Program UInt32) : Program UInt32 :=
  .report (.step name shown) next

/-- Note a step that is done or refused; a refusal ends the run unless it is to be ignored. -/
def settle (name : String) (ignore : Bool) (count : UInt32) (result : Except Status Unit)
    (next : Program UInt32) : Program UInt32 :=
  match result with
  | .ok () => note name .accepted next
  | .error code =>
    note name (.refused code) (if ignore then next else .finish (.error code) count)

/-- The program of a list of steps, for an instance that has counted so far. -/
def program : List ScriptStep → UInt32 → Program UInt32
  | [], count => .finish (.ok ()) count
  | ⟨action, ignore⟩ :: rest, count =>
    let next := program rest
    let failing (code : Status) : Program UInt32 :=
      if ignore then next count else .finish (.error code) count
    match action with
    | .paramType slot => .ask (.paramType slot) fun answer =>
      match answer with
      | .ok type => note "param_type" (.number type.raw.toNat) (next count)
      | .error code => note "param_type" (.refused code) (failing code)
    | .value slot => .ask (.value slot) fun pair => note "value" (.pair pair.1 pair.2) (next count)
    | .setValue slot a b => .ask (.setValue slot a b) fun _ =>
      note "set_value" .nothing (next count)
    | .add slot => .ask (.value slot) fun pair =>
      .ask (.setValue slot (pair.1 + pair.2) pair.2) fun _ => note "add" .nothing (next count)
    | .setLogin slot => .ask .login fun login =>
      .ask (.setValue slot login.method login.data) fun _ =>
        note "set_login" .nothing (next count)
    | .count slot => .ask (.setValue slot (count + 1) 0) fun _ =>
      note "count" .nothing (next (count + 1))
    | .capacity slot => .ask (.capacity slot) fun size =>
      note "capacity" (.number size.toNat) (next count)
    | .mapped slot => .ask (.isMapped slot) fun b => note "mapped" (.flag b) (next count)
    | .read slot => .ask (.read slot) fun data =>
      note "read" (data.elim .nothing .bytes) (next count)
    | .write slot data => .ask (.write slot data) fun result =>
      settle "write" ignore count result (next count)
    | .copy slot target => .ask (.read slot) fun data =>
      .ask (.write target (data.getD [])) fun result =>
        settle "copy" ignore count result (next count)
    | .reverse slot => .ask (.read slot) fun data =>
      .ask (.write slot (data.getD []).reverse) fun result =>
        settle "reverse" ignore count result (next count)
    | .outputSize slot size => .ask (.setOutputSize slot size) fun _ =>
      note "output_size" .nothing (next count)
    | .isCancelled => .ask .isCancelled fun b => note "is_cancelled" (.flag b) (next count)
    | .login => .ask .login fun login =>
      note "login" (.pair login.method login.data) (next count)
    | .destination => .ask .destination fun uuid =>
      note "destination" (.text uuid.text) (next count)
    | .cancel token => .cancel token fun outcome =>
      .report (.cancel token outcome) (note "cancel" .nothing (next count))
    | .fail code => note "fail" (.number code.toNat) (failing code)
    | .failIfCancelled code => .ask .isCancelled fun b =>
      note "fail_if_cancelled" (.flag b) (if b then failing code else next count)
    | .panic => .panic

/-- The program of an entry point, which notes first that it began. -/
def enter (point : EntryPoint) (steps : List ScriptStep) (count : UInt32) : Program UInt32 :=
  .report (.entered point) (program steps count)

/-- The scripted application. Its instances keep a count, which starts at zero. -/
def app (s : Script) : App UInt32 where
  initial := 0
  opening count := if s.plain then .finish (.ok ()) count else enter .opening s.opening count
  closing count := if s.plain then .finish (.ok ()) count else enter .closing s.closing count
  command id count := enter (.command id) ((s.commands.get? id).getD s.other) count

end Script

end TeeClient.Bench
