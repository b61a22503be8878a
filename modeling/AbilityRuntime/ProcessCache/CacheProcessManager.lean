import Mathlib.Data.Finset.Card
import AbilityRuntime.Library.KeyedMap
import AbilityRuntime.Library.Runs

set_option autoImplicit false

namespace AbilityRuntime.ProcessCache

open Library

structure AppRunningRecord where
  id : Nat
  bundleName : String
  uid : Int
deriving DecidableEq, Repr

abbrev SameAppSet := KeyedMap String (KeyedMap Int (Finset AppRunningRecord))

namespace SameAppSet

def addToApplicationSet (sameAppSet : SameAppSet) (appRecord : AppRunningRecord) : SameAppSet :=
  let sameAppSet :=
    match sameAppSet.lookup appRecord.bundleName with
    | none => sameAppSet.insert appRecord.bundleName (AList.singleton appRecord.uid {appRecord})
    | some _ => sameAppSet
  let uidMap := (sameAppSet.lookup appRecord.bundleName).getD ∅
  match uidMap.lookup appRecord.uid with
  | none => sameAppSet.insert appRecord.bundleName (uidMap.insert appRecord.uid {appRecord})
  | some recordSet =>
    sameAppSet.insert appRecord.bundleName
      (uidMap.insert appRecord.uid (insert appRecord recordSet))

def removeFromApplicationSet (sameAppSet : SameAppSet) (appRecord : AppRunningRecord) :
    SameAppSet :=
  match sameAppSet.lookup appRecord.bundleName with
  | none => sameAppSet
  | some uidMap =>
    match uidMap.lookup appRecord.uid with
    | none => sameAppSet
    | some recordSet =>
      let recordSet := recordSet.erase appRecord
      let uidMap :=
        if recordSet.card = 0 then uidMap.erase appRecord.uid
        else uidMap.insert appRecord.uid recordSet
      if uidMap.keys.length = 0 then sameAppSet.erase appRecord.bundleName
      else sameAppSet.insert appRecord.bundleName uidMap

def recordsOf (sameAppSet : SameAppSet) (bundleName : String) (uid : Int) :
    Option (Finset AppRunningRecord) :=
  (sameAppSet.lookup bundleName).bind (·.lookup uid)

end SameAppSet

/-- The records whose kill is asked of AppMgrServiceInner are kept in order. -/
structure CacheProcessManager where
  maxProcCacheNum : Int
  allowedCacheNum : Int
  warmStartProcesEnable : Bool
  cachedAppRecordQueue : List AppRunningRecord := []
  sameAppSet : SameAppSet := ∅
  appMgr : Bool := true
  killed : List AppRunningRecord := []

structure Parameters where
  maxProcCacheNum : Int
  warmStartProcesEnable : Bool
  maxAllowedCacheNum : Int

namespace CacheProcessManager

def create (parameters : Parameters) : CacheProcessManager where
  maxProcCacheNum := parameters.maxProcCacheNum
  warmStartProcesEnable := parameters.warmStartProcesEnable
  allowedCacheNum :=
    if parameters.maxProcCacheNum > 0 then parameters.maxProcCacheNum
    else parameters.maxAllowedCacheNum

def refreshCacheNum (mgr : CacheProcessManager) (parameter : Int) : CacheProcessManager :=
  { mgr with maxProcCacheNum := parameter, allowedCacheNum := parameter }

def queryEnableProcessCache (mgr : CacheProcessManager) : Bool :=
  mgr.maxProcCacheNum > 0 || mgr.warmStartProcesEnable

def isCachedProcess (mgr : CacheProcessManager) (appRecord : AppRunningRecord) : Bool :=
  mgr.cachedAppRecordQueue.any (· = appRecord)

def killProcessByRecord (mgr : CacheProcessManager) (appRecord : AppRunningRecord) :
    CacheProcessManager × Bool :=
  if mgr.appMgr then ({ mgr with killed := mgr.killed ++ [appRecord] }, true) else (mgr, false)

def shrinkLoop (allowedCacheNum : Int) (sameAppSet : SameAppSet)
    (cleanList : List AppRunningRecord) :
    List AppRunningRecord -> Option (List AppRunningRecord × SameAppSet × List AppRunningRecord)
  | [] => if 0 > allowedCacheNum then none else some ([], sameAppSet, cleanList)
  | tmpAppRecord :: rest =>
    if (rest.length + 1 : Int) > allowedCacheNum then
      shrinkLoop allowedCacheNum (sameAppSet.removeFromApplicationSet tmpAppRecord)
        (cleanList ++ [tmpAppRecord]) rest
    else some (tmpAppRecord :: rest, sameAppSet, cleanList)

def shrinkAndKillCache (mgr : CacheProcessManager) : Option CacheProcessManager :=
  if mgr.maxProcCacheNum ≤ 0 && !mgr.warmStartProcesEnable then some mgr
  else do
    let (queue, sameAppSet, cleanList) <-
      shrinkLoop mgr.allowedCacheNum mgr.sameAppSet [] mgr.cachedAppRecordQueue
    let mgr := { mgr with cachedAppRecordQueue := queue, sameAppSet := sameAppSet }
    return cleanList.foldl (fun mgr tmpAppRecord => (mgr.killProcessByRecord tmpAppRecord).1) mgr

def penddingCacheProcess (mgr : CacheProcessManager) (appRecord : Option AppRunningRecord)
    (isKeepAliveApp : Bool) : Option (CacheProcessManager × Bool) :=
  if !mgr.queryEnableProcessCache then some (mgr, false)
  else
    match appRecord with
    | none => some (mgr, false)
    | some appRecord =>
      if mgr.isCachedProcess appRecord then some (mgr, false)
      else if isKeepAliveApp then some (mgr, false)
      else do
        let mgr <- { mgr with
          cachedAppRecordQueue := mgr.cachedAppRecordQueue ++ [appRecord]
          sameAppSet := mgr.sameAppSet.addToApplicationSet appRecord }.shrinkAndKillCache
        return (mgr, true)

def removeLoop (appRecord : AppRunningRecord) (sameAppSet : SameAppSet) :
    List AppRunningRecord -> List AppRunningRecord × SameAppSet
  | [] => ([], sameAppSet)
  | front :: rest =>
    if appRecord = front then removeLoop appRecord (sameAppSet.removeFromApplicationSet front) rest
    else
      let (queue, sameAppSet) := removeLoop appRecord sameAppSet rest
      (front :: queue, sameAppSet)

def removeCacheRecord (mgr : CacheProcessManager) (appRecord : AppRunningRecord) :
    CacheProcessManager :=
  let (queue, sameAppSet) := removeLoop appRecord mgr.sameAppSet mgr.cachedAppRecordQueue
  { mgr with cachedAppRecordQueue := queue, sameAppSet := sameAppSet }

def onProcessKilled (mgr : CacheProcessManager) (appRecord : Option AppRunningRecord) :
    CacheProcessManager :=
  if !mgr.queryEnableProcessCache then mgr
  else
    match appRecord with
    | none => mgr
    | some appRecord =>
      if !mgr.isCachedProcess appRecord then mgr else mgr.removeCacheRecord appRecord

def reuseCachedProcess (mgr : CacheProcessManager) (appRecord : Option AppRunningRecord) :
    CacheProcessManager × Bool :=
  if !mgr.queryEnableProcessCache then (mgr, false)
  else
    match appRecord with
    | none => (mgr, false)
    | some appRecord =>
      if !mgr.isCachedProcess appRecord then (mgr, false)
      else (mgr.removeCacheRecord appRecord, true)

def onAppProcessCacheBlocked (mgr : CacheProcessManager) (appRecord : Option AppRunningRecord) :
    CacheProcessManager :=
  if !mgr.queryEnableProcessCache then mgr
  else
    match appRecord with
    | none => mgr
    | some appRecord =>
      if !mgr.isCachedProcess appRecord then mgr
      else ((mgr.removeCacheRecord appRecord).killProcessByRecord appRecord).1

end CacheProcessManager

inductive Call where
  | penddingCacheProcess (appRecord : Option AppRunningRecord) (isKeepAliveApp : Bool)
  | reuseCachedProcess (appRecord : Option AppRunningRecord)
  | onProcessKilled (appRecord : Option AppRunningRecord)
  | onAppProcessCacheBlocked (appRecord : Option AppRunningRecord)
  | refreshCacheNum (parameter : Int)
  | shrinkAndKillCache

namespace CacheProcessManager

/-- The state after a call and what the call returns; nothing after the front of an empty queue has
been taken. -/
def handle (mgr : CacheProcessManager) : Call -> Option (CacheProcessManager × Bool)
  | .penddingCacheProcess appRecord isKeepAliveApp =>
    mgr.penddingCacheProcess appRecord isKeepAliveApp
  | .reuseCachedProcess appRecord => some (mgr.reuseCachedProcess appRecord)
  | .onProcessKilled appRecord => some (mgr.onProcessKilled appRecord, true)
  | .onAppProcessCacheBlocked appRecord => some (mgr.onAppProcessCacheBlocked appRecord, true)
  | .refreshCacheNum parameter => some (mgr.refreshCacheNum parameter, true)
  | .shrinkAndKillCache => mgr.shrinkAndKillCache.map (·, true)

end CacheProcessManager

def machine (parameters : Parameters) : Machine (Option CacheProcessManager) Call where
  start := some (CacheProcessManager.create parameters)
  step := fun state call => do return (<- (<- state).handle call).1

end AbilityRuntime.ProcessCache
