import Mathlib.Data.String.Basic

set_option autoImplicit false

namespace AbilityRuntime.DataObs

open Function

def OBS_NUM_MAX : Nat := 50
def OBS_ALL_NUM_MAX : Nat := OBS_NUM_MAX * OBS_NUM_MAX
def MAX_URI_PATH_SIZE : Nat := 25

structure Uri where
  scheme : String
  authority : String
  pathSegments : List String
deriving DecidableEq, Repr

def Uri.path (uri : Uri) : List String := uri.scheme :: uri.authority :: uri.pathSegments

structure IDataAbilityObserver where
  id : Nat
  asObject : Option Nat
deriving DecidableEq, Repr

structure Entry where
  observer : IDataAbilityObserver
  userId : Int
  tokenId : UInt32
  deathRecipientRef : Nat
  isDescendants : Bool
  pid : Int
  entryId : Nat

structure NotifyInfo where
  uri : Uri
  readPermission : String
  isSilentUri : Bool

structure ObsNotifyInfo where
  tokenId : UInt32 := 0
  pid : Int := 0
  uriList : List NotifyInfo := []

def RefCells : Type := Nat -> UInt32

def RefCells.make (refs : RefCells) (cell : Nat) : RefCells := update refs cell 1

def RefCells.increment (refs : RefCells) (cell : Nat) : RefCells :=
  update refs cell (refs cell + 1)

def RefCells.decrement (refs : RefCells) (cell : Nat) : RefCells :=
  update refs cell (refs cell - 1)

theorem RefCells.make_apply (refs : RefCells) (cell other : Nat) :
    refs.make cell other = if other = cell then 1 else refs other :=
  update_apply refs cell 1 other

theorem RefCells.increment_apply (refs : RefCells) (cell other : Nat) :
    refs.increment cell other = if other = cell then refs cell + 1 else refs other :=
  update_apply refs cell (refs cell + 1) other

theorem RefCells.decrement_apply (refs : RefCells) (cell other : Nat) :
    refs.decrement cell other = if other = cell then refs cell - 1 else refs other :=
  update_apply refs cell (refs cell - 1) other

def ObsMap : Type := IDataAbilityObserver -> Option ObsNotifyInfo

def ObsMap.push (obsRes : ObsMap) (info : NotifyInfo) (entry : Entry) : ObsMap :=
  let notifyInfo := (obsRes entry.observer).getD {}
  update obsRes entry.observer (some ⟨entry.tokenId, entry.pid, notifyInfo.uriList ++ [info]⟩)

mutual

inductive Node where
  | mk (entrys : List Entry) (childrens : Childrens)

inductive Childrens where
  | nil
  | cons (key : String) (child : Node) (rest : Childrens)

end

namespace Childrens

def find : Childrens -> String -> Option Node
  | nil, _ => none
  | cons key child rest, name => if key = name then some child else rest.find name

def put : Childrens -> String -> Node -> Childrens
  | nil, name, node => cons name node nil
  | cons key child rest, name, node =>
    if key = name then cons key node rest else cons key child (rest.put name node)

def erase : Childrens -> String -> Childrens
  | nil, _ => nil
  | cons key child rest, name => if key = name then rest else cons key child (rest.erase name)

def keys : Childrens -> List String
  | nil => []
  | cons key _ rest => key :: rest.keys

def empty : Childrens -> Bool
  | nil => true
  | cons _ _ _ => false

end Childrens

namespace Node

def entrys : Node -> List Entry
  | mk entrys _ => entrys

def childrens : Node -> Childrens
  | mk _ childrens => childrens

def fresh : Node := mk [] .nil

def vacant (node : Node) : Bool := node.entrys.isEmpty && node.childrens.empty

def allowed (userId : Int) (entry : Entry) : Bool :=
  !(entry.userId != userId && entry.userId != 0 && userId != 0)

def getObs (info : NotifyInfo) (userId : Int) : Node -> List String -> ObsMap -> ObsMap
  | mk entrys _, [], obsRes =>
    entrys.foldl (fun obsRes entry =>
      if allowed userId entry then obsRes.push info entry else obsRes) obsRes
  | mk entrys childrens, name :: path, obsRes =>
    let obsRes := entrys.foldl (fun obsRes entry =>
      if entry.isDescendants then
        if allowed userId entry then obsRes.push info entry else obsRes
      else obsRes) obsRes
    match childrens.find name with
    | none => obsRes
    | some child => child.getObs info userId path obsRes

def isLimit (entrys : List Entry) (entry : Entry) : Bool :=
  OBS_ALL_NUM_MAX ≤ entrys.length ||
    OBS_NUM_MAX < entrys.countP (fun existEntry => existEntry.tokenId == entry.tokenId)

def addObserver (entry : Entry) : Node -> List String -> RefCells -> Node × RefCells × Bool
  | mk entrys childrens, [], refs =>
    if isLimit entrys entry then (mk entrys childrens, refs, false)
    else (mk (entrys ++ [entry]) childrens, refs.increment entry.deathRecipientRef, true)
  | mk entrys childrens, name :: path, refs =>
    let child := (childrens.find name).getD fresh
    let (child, refs, added) := child.addObserver entry path refs
    (mk entrys (childrens.put name child), refs, added)

-- The list's remove_if, whose predicate drops the reference of every entry it removes.
def removeIf (object : Option Nat) (entrys : List Entry) (refs : RefCells) :
    List Entry × RefCells :=
  (entrys.filter fun entry => entry.observer.asObject != object,
    (entrys.filter fun entry => entry.observer.asObject == object).foldl
      (fun refs entry => refs.decrement entry.deathRecipientRef) refs)

def removeObserver (dataObserver : IDataAbilityObserver) :
    Node -> List String -> RefCells -> Node × RefCells × Bool
  | mk entrys childrens, [], refs =>
    let (entrys, refs) := removeIf dataObserver.asObject entrys refs
    (mk entrys childrens, refs, (mk entrys childrens).vacant)
  | mk entrys childrens, name :: path, refs =>
    match childrens.find name with
    | none => (mk entrys childrens, refs, (mk entrys childrens).vacant)
    | some child =>
      let (child, refs, removable) := child.removeObserver dataObserver path refs
      let childrens := if removable then childrens.erase name else childrens.put name child
      (mk entrys childrens, refs, (mk entrys childrens).vacant)

mutual

def removeObject (object : Nat) : Node -> RefCells -> Node × RefCells × Bool
  | mk entrys childrens, refs =>
    let (childrens, refs) := removeObjects object childrens refs
    let (entrys, refs) := removeIf (some object) entrys refs
    (mk entrys childrens, refs, (mk entrys childrens).vacant)

def removeObjects (object : Nat) : Childrens -> RefCells -> Childrens × RefCells
  | .nil, refs => (.nil, refs)
  | .cons key child rest, refs =>
    let (child, refs, removable) := removeObject object child refs
    let (rest, refs) := removeObjects object rest refs
    (if removable then rest else .cons key child rest, refs)

end

-- RemoveObserver(sptr<IDataAbilityObserver>): nothing happens without a remote object.
def removeAll (dataObserver : IDataAbilityObserver) (node : Node) (refs : RefCells) :
    Node × RefCells × Bool :=
  match dataObserver.asObject with
  | none => (node, refs, false)
  | some object => node.removeObject object refs

end Node

end AbilityRuntime.DataObs
