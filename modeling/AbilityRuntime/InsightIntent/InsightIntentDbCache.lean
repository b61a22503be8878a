import AbilityRuntime.InsightIntent.ExtractInsightIntentProfile
import AbilityRuntime.Library.KeyedMap
import AbilityRuntime.Library.Runs
import AbilityRuntime.Library.TextLines
import Mathlib.Data.String.Basic

set_option autoImplicit false

namespace AbilityRuntime.InsightIntent

open Library

abbrev IntentRdb := KeyedMap String String

def beginsWith (start key : String) : Bool := start.toList.isPrefixOf key.toList

def IntentRdb.deleteDataBeginWithKey (rdb : IntentRdb) (key : String) : IntentRdb :=
  KeyedMap.without rdb (beginsWith key)

structure Iteration where
  arrange : List (String × String) -> List (String × String)
  perm : ∀ items, (arrange items).Perm items

def IntentRdb.queryDataBeginWithKey (rdb : IntentRdb) (iteration : Iteration) (key : String) :
    List (String × String) :=
  iteration.arrange
    ((rdb.entries.map fun entry => (entry.1, entry.2)).filter fun item => beginsWith key item.1)

def userKey (userId : Int) : String := toString userId ++ "/"

def bundleKey (userId : Int) (bundleName : String) : String := userKey userId ++ bundleName ++ "/"

def moduleKey (userId : Int) (bundleName moduleName : String) : String :=
  bundleKey userId bundleName ++ moduleName ++ "/"

def intentKey (userId : Int) (bundleName moduleName intentName : String) (versionCode : Nat) :
    String :=
  moduleKey userId bundleName moduleName ++ intentName ++ "/" ++ toString versionCode

def splitStringBySlash (inputStr : String) : List String := textLines '/' inputStr

section

variable (json : IntentJson)

namespace IntentRdb

def transformProfiles (rdb : IntentRdb) :
    List (String × String) -> IntentRdb × List ExtractInsightIntentGenericInfo
  | [] => (rdb, [])
  | item :: rest =>
    match json.transformTo item.2 with
    | none => transformProfiles (rdb.deleteDataBeginWithKey item.1) rest
    | some profileInfos =>
      let (rdb, totalInfos) := transformProfiles rdb rest
      (rdb, profileInfos.map profileInfoFormat ++ totalInfos)

def transformConfigs (rdb : IntentRdb) : List (String × String) -> IntentRdb
  | [] => rdb
  | item :: rest =>
    match json.transformToConfigs item.2 with
    | none => transformConfigs (rdb.deleteDataBeginWithKey item.1) rest
    | some _ => transformConfigs rdb rest

def versionsOf (value : List (String × String)) : KeyedMap String String :=
  value.foldl
    (fun bundleVersionMap item =>
      match splitStringBySlash item.1 with
      | _ :: bundleName :: _ :: _ :: version :: _ => bundleVersionMap.insert bundleName version
      | _ => bundleVersionMap)
    ∅

def loadInsightIntentInfos (rdb : IntentRdb) (iteration : Iteration) (userId : Int) :
    IntentRdb × KeyedMap String String × List ExtractInsightIntentGenericInfo :=
  let value := rdb.queryDataBeginWithKey iteration (userKey userId)
  let (rdb, totalInfos) := rdb.transformProfiles json value
  (rdb.transformConfigs json value, versionsOf value, totalInfos)

def insertAll (rdb : IntentRdb) : List (String × Option String) -> IntentRdb
  | [] => rdb
  | (_, none) :: _ => rdb
  | (key, some value) :: rest => insertAll (rdb.insert key value) rest

def profileRow (bundleName moduleName : String) (userId : Int) (versionCode : Nat)
    (profileInfo : ExtractInsightIntentProfileInfo) : String × Option String :=
  (intentKey userId bundleName moduleName profileInfo.intentName versionCode,
    json.dumpProfile profileInfo)

def configRow (bundleName moduleName : String) (userId : Int) (versionCode : Nat)
    (configInfo : InsightIntentInfo) : String × Option String :=
  (intentKey userId bundleName moduleName configInfo.intentName versionCode,
    json.dumpConfig { configInfo with moduleName, bundleName })

def saveStorageInsightIntentData (rdb : IntentRdb) (bundleName moduleName : String) (userId : Int)
    (versionCode : Nat) (profileInfos : List ExtractInsightIntentProfileInfo)
    (configInfos : List InsightIntentInfo) : IntentRdb :=
  rdb.insertAll
    (profileInfos.map (profileRow json bundleName moduleName userId versionCode) ++
      configInfos.map (configRow json bundleName moduleName userId versionCode))

def deleteStorageInsightIntentData (rdb : IntentRdb) (bundleName moduleName : String)
    (userId : Int) : IntentRdb :=
  rdb.deleteDataBeginWithKey
    (if moduleName.isEmpty then bundleKey userId bundleName
    else moduleKey userId bundleName moduleName)

end IntentRdb

structure InsightIntentDbCache where
  userId : Int := -1
  intentGenericInfos : KeyedMap String (List ExtractInsightIntentGenericInfo) := ∅
  bundleVersionMap : KeyedMap String String := ∅

structure IntentSystem where
  cache : InsightIntentDbCache := {}
  rdb : IntentRdb := ∅

namespace InsightIntentDbCache

def pushInfos (totalInfos : List ExtractInsightIntentGenericInfo) :
    KeyedMap String (List ExtractInsightIntentGenericInfo) :=
  totalInfos.foldl
    (fun intentGenericInfos info =>
      intentGenericInfos.insert info.bundleName
        ((intentGenericInfos.lookup info.bundleName).getD [] ++ [info]))
    ∅

def initInsightIntentCache (system : IntentSystem) (iteration : Iteration) (userId : Int) :
    IntentSystem :=
  if system.cache.userId = userId then system
  else
    let (rdb, bundleVersionMap, totalInfos) :=
      system.rdb.loadInsightIntentInfos json iteration userId
    { cache := { userId, bundleVersionMap, intentGenericInfos := pushInfos totalInfos }, rdb }

def withoutModule (moduleName : String) (infos : List ExtractInsightIntentGenericInfo) :
    List ExtractInsightIntentGenericInfo :=
  infos.filter fun info => info.moduleName != moduleName

def saveInsightIntentTotalInfo (system : IntentSystem) (bundleName moduleName : String)
    (userId : Int) (versionCode : Nat) (profileInfos : List ExtractInsightIntentProfileInfo)
    (configInfos : List InsightIntentInfo) : IntentSystem :=
  if userId ≠ system.cache.userId then system
  else
    let genericInfos := profileInfos.map profileInfoFormat
    let infos :=
      match system.cache.intentGenericInfos.lookup bundleName with
      | some infos => withoutModule moduleName infos ++ genericInfos
      | none => genericInfos
    let deleted := system.rdb.deleteStorageInsightIntentData bundleName moduleName userId
    { cache :=
        { system.cache with
          intentGenericInfos := system.cache.intentGenericInfos.insert bundleName infos
          bundleVersionMap := system.cache.bundleVersionMap.insert bundleName (toString versionCode) }
      rdb := deleted.saveStorageInsightIntentData json bundleName moduleName userId versionCode
        profileInfos configInfos }

def eraseModule (cache : InsightIntentDbCache) (bundleName moduleName : String) :
    InsightIntentDbCache :=
  if moduleName.isEmpty then
    { cache with
      intentGenericInfos := cache.intentGenericInfos.erase bundleName
      bundleVersionMap := cache.bundleVersionMap.erase bundleName }
  else
    match cache.intentGenericInfos.lookup bundleName with
    | none => cache
    | some infos =>
      let kept := withoutModule moduleName infos
      if kept.isEmpty then
        { cache with
          intentGenericInfos := cache.intentGenericInfos.erase bundleName
          bundleVersionMap := cache.bundleVersionMap.erase bundleName }
      else
        { cache with intentGenericInfos := cache.intentGenericInfos.insert bundleName kept }

def deleteInsightIntentTotalInfo (system : IntentSystem) (bundleName moduleName : String)
    (userId : Int) : IntentSystem :=
  if userId ≠ system.cache.userId then system
  else
    { cache := system.cache.eraseModule bundleName moduleName
      rdb := system.rdb.deleteStorageInsightIntentData bundleName moduleName userId }

end InsightIntentDbCache

inductive IntentStep where
  | initInsightIntentCache (iteration : Iteration) (userId : Int)
  | saveInsightIntentTotalInfo (bundleName moduleName : String) (userId : Int) (versionCode : Nat)
      (profileInfos : List ExtractInsightIntentProfileInfo) (configInfos : List InsightIntentInfo)
  | deleteInsightIntentTotalInfo (bundleName moduleName : String) (userId : Int)

def IntentSystem.step (system : IntentSystem) : IntentStep -> IntentSystem
  | .initInsightIntentCache iteration userId =>
    InsightIntentDbCache.initInsightIntentCache json system iteration userId
  | .saveInsightIntentTotalInfo bundleName moduleName userId versionCode profileInfos configInfos =>
    InsightIntentDbCache.saveInsightIntentTotalInfo json system bundleName moduleName userId
      versionCode profileInfos configInfos
  | .deleteInsightIntentTotalInfo bundleName moduleName userId =>
    InsightIntentDbCache.deleteInsightIntentTotalInfo system bundleName moduleName userId

def intentSystem : Machine IntentSystem IntentStep where
  start := {}
  step := IntentSystem.step json

end

namespace InsightIntentDbCache

variable (cache : InsightIntentDbCache)

def infosOf (bundleName : String) : List ExtractInsightIntentGenericInfo :=
  (cache.intentGenericInfos.lookup bundleName).getD []

def hasInsightIntentByName (versionCode : Nat) (bundleName : String) : Bool :=
  cache.bundleVersionMap.lookup bundleName == some (toString versionCode)

def getAllInsightIntentGenericInfo : List ExtractInsightIntentGenericInfo :=
  (KeyedMap.values cache.intentGenericInfos).flatten

def notAfter (first second : ExtractInsightIntentGenericInfo) : Bool :=
  if first.moduleName = second.moduleName then first.intentName ≤ second.intentName
  else first.moduleName ≤ second.moduleName

def getInsightIntentGenericInfoByName (bundleName : String) :
    List ExtractInsightIntentGenericInfo :=
  (cache.infosOf bundleName).mergeSort notAfter

def getInsightIntentGenericInfo (bundleName moduleName intentName : String) :
    Option ExtractInsightIntentGenericInfo :=
  (cache.infosOf bundleName).findRev? fun info =>
    info.moduleName == moduleName && info.intentName == intentName

end InsightIntentDbCache

end AbilityRuntime.InsightIntent
