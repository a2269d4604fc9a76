import DhcpLeases.Json.Reading
import DhcpLeases.Lease.Listing

namespace DhcpLeases

inductive FileFault where
  | notFound
  | isDirectory
  | notDirectory
  | nameTooLong
  | nulInName
  | notText
  | other (reason : String)
  deriving Repr, DecidableEq

def FileFault.message : FileFault → String
  | notFound => "No such file or directory (os error 2)"
  | isDirectory => "Is a directory (os error 21)"
  | notDirectory => "Not a directory (os error 20)"
  | nameTooLong => "File name too long (os error 36)"
  | nulInName => "file name contained an unexpected NUL byte"
  | notText => "stream did not contain valid UTF-8"
  | other reason => reason

inductive Flaw where
  | emptyPoolKey
  | emptyNetworkName
  | repeatedNetwork (name : String)
  | badRange (range subnet network : String) (start stop : Address)
  deriving Repr, DecidableEq

def Flaw.message : Flaw → String
  | emptyPoolKey => "pool_key must not be empty"
  | emptyNetworkName => "shared network name must not be empty"
  | repeatedNetwork name => "shared network " ++ name ++ " is defined more than once"
  | badRange range subnet network start stop =>
    "range " ++ range ++ " of subnet " ++ subnet ++ " in " ++ network ++ " is invalid: " ++
      start.text ++ " - " ++ stop.text

def stateNames : List String :=
  "all" :: BindingState.all.map BindingState.name

inductive Failure where
  | file (fault : FileFault)
  | json (fault : Json.Fault)
  | unknownState (name : String)
  | unknownSortKey (name : String)
  | unsound (flaw : Flaw)
  | badRange (start stop : Address)
  deriving Repr, DecidableEq

def Failure.message : Failure → String
  | file fault => "IO error: " ++ fault.message
  | json fault => "JSON error: " ++ fault.message
  | unknownState name =>
    "Invalid lease state '" ++ name ++ "', choose from: " ++ ", ".intercalate stateNames
  | unknownSortKey name =>
    "Invalid sort key '" ++ name ++ "', choose from: " ++
      ", ".intercalate (SortKey.all.map SortKey.name)
  | unsound flaw => "Invalid configuration: " ++ flaw.message
  | badRange start stop => "Invalid address range " ++ start.text ++ " - " ++ stop.text

end DhcpLeases
