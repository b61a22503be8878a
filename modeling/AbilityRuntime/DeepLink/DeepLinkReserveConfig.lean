import AbilityRuntime.Library.Json
import Std.Data.ExtTreeMap

set_option autoImplicit false

namespace AbilityRuntime.DeepLink

open Library

structure ReserveUri where
  scheme : String := ""
  host : String := ""
  port : String := ""
  path : String := ""
  pathStartWith : String := ""
  pathRegex : String := ""
  type : String := ""
  utd : String := ""
deriving DecidableEq, Repr

def DEEPLINK_RESERVED_URI_NAME : String := "deepLinkReservedUri"
def BUNDLE_NAME : String := "bundleName"
def URIS_NAME : String := "uris"
def SCHEME_NAME : String := "scheme"
def HOST_NAME : String := "host"
def PORT_NAME : String := "port"
def PATH_NAME : String := "path"
def PATH_START_WITH_NAME : String := "pathStartWith"
def PATH_REGEX_NAME : String := "pathRegex"
def TYPE_NAME : String := "type"
def UTD_NAME : String := "utd"
def PORT_SEPARATOR : String := ":"
def SCHEME_SEPARATOR : String := "://"
def PATH_SEPARATOR : String := "/"
def PARAM_SEPARATOR : Char := '?'

abbrev ReserveUris := Std.ExtTreeMap String (List ReserveUri)

def loadReservedUrilItem (jsonUriObject : Json) : ReserveUri where
  scheme := (jsonUriObject.stringMember? SCHEME_NAME).getD ""
  host := (jsonUriObject.stringMember? HOST_NAME).getD ""
  port := (jsonUriObject.stringMember? PORT_NAME).getD ""
  path := (jsonUriObject.stringMember? PATH_NAME).getD ""
  pathStartWith := (jsonUriObject.stringMember? PATH_START_WITH_NAME).getD ""
  pathRegex := (jsonUriObject.stringMember? PATH_REGEX_NAME).getD ""
  type := (jsonUriObject.stringMember? TYPE_NAME).getD ""
  utd := (jsonUriObject.stringMember? UTD_NAME).getD ""

def reservedItem? (jsonObject : Json) : Option (String × List ReserveUri) := do
  let bundleName <- jsonObject.stringMember? BUNDLE_NAME
  let uris <- jsonObject.arrayMember? URIS_NAME
  return (bundleName, uris.map loadReservedUrilItem)

-- std::map::insert leaves a bundle that is there as it is.
def loadReservedUriList (deepLinkReserveUris : ReserveUris) (object : Json) : Option ReserveUris := do
  let items <- object.arrayMember? DEEPLINK_RESERVED_URI_NAME
  items.foldlM (fun uris item => do
    let (bundleName, uriList) <- reservedItem? item
    return uris.insertIfNew bundleName uriList) deepLinkReserveUris

def getOptParamUri (linkString : String) : String :=
  if PARAM_SEPARATOR ∈ linkString.toList then
    String.ofList (linkString.toList.reverse.dropWhile (· ≠ PARAM_SEPARATOR)).tail.reverse
  else linkString

def startsWith (sourceString targetPrefix : String) : Bool :=
  targetPrefix.toList.isPrefixOf sourceString.toList

def ReserveUri.origin (reservedUri : ReserveUri) : String :=
  let uri := reservedUri.scheme ++ SCHEME_SEPARATOR ++ reservedUri.host
  if reservedUri.port ≠ "" then uri ++ PORT_SEPARATOR ++ reservedUri.port else uri

variable (regexMatch : String -> String -> Bool)

def isHostMatched (reservedUri : ReserveUri) (optParamUri : String) : Bool :=
  let reservedUriString := reservedUri.origin
  if reservedUri.path = "" ∧ reservedUri.pathStartWith = "" ∧ reservedUri.pathRegex = "" then
    optParamUri = reservedUriString || startsWith optParamUri (reservedUriString ++ PATH_SEPARATOR) ||
      (reservedUri.port = "" && startsWith optParamUri (reservedUriString ++ PORT_SEPARATOR))
  else
    let reservedUriString := reservedUriString ++ PATH_SEPARATOR
    (reservedUri.path ≠ "" && optParamUri = reservedUriString ++ reservedUri.path) ||
      (reservedUri.pathStartWith ≠ "" &&
        startsWith optParamUri (reservedUriString ++ reservedUri.pathStartWith)) ||
      (reservedUri.pathRegex ≠ "" &&
        regexMatch (reservedUriString ++ reservedUri.pathRegex) optParamUri)

def isSchemeMatched (reservedUri : ReserveUri) (link : String) : Bool :=
  link = reservedUri.scheme || startsWith link (reservedUri.scheme ++ PORT_SEPARATOR)

-- A pattern that is no regular expression matches nothing.
def isUriMatched (reservedUri : ReserveUri) (link : String) : Bool :=
  if reservedUri.scheme = "" then false
  else if reservedUri.host = "" then isSchemeMatched reservedUri link
  else isHostMatched regexMatch reservedUri (getOptParamUri link)

def isLinkReserved (deepLinkReserveUris : ReserveUris) (linkString : String) : Option String :=
  (deepLinkReserveUris.toList.find? fun entry =>
    entry.2.any (isUriMatched regexMatch · linkString)).map Prod.fst

end AbilityRuntime.DeepLink
