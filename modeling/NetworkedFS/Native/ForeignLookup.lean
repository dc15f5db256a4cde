import NetworkedFS.ForStd.Finmap
import NetworkedFS.Native.Debug

/-!
# Foreign nodes by path

Model of the lookups of foreign nodes in `internal_unbalanced_tree_filesystem`
(`LIBS/defs_internal.h`): a `map<string, string>` and the three functions on it.  Strings are
lists of characters.
-/

namespace NetworkedFS

/-- `INTERNAL_UNBALANCED_TREE_FILESYSTEM_BROADCAST_IDENTIFIERp`, the default host. -/
def broadcastIdentifier : List Char := ['-', '1']

/-- What the lookups use of an `internal_unbalanced_tree_filesystem`. -/
structure ForeignLookup where
  offsetArmed : Bool
  foreignNodes : UMap (List Char) (List Char) := ∅

namespace ForeignLookup

/-- The empty string if there is no such entry. -/
def getForeignLookup (s : ForeignLookup) (lookup : List Char) : Except Fault (List Char) :=
  if s.offsetArmed then .ok ((s.foreignNodes.lookup lookup).getD []) else .error .assertion

/-- The host is the key. -/
def addForeignLookup (s : ForeignLookup) (path : List Char)
    (host : List Char := broadcastIdentifier) : Except Fault ForeignLookup :=
  if s.offsetArmed then .ok { s with foreignNodes := s.foreignNodes.emplace host path }
  else .error .assertion

/-- Nothing is erased. -/
def removeForeignLookup (s : ForeignLookup) (lookup : List Char) :
    Except Fault (Bool × ForeignLookup) :=
  if s.offsetArmed then .ok ((s.foreignNodes.lookup lookup).isSome, s) else .error .assertion

end ForeignLookup

end NetworkedFS
