/-!
# Git operations

The two remote procedures of the Git smart-HTTP protocol, and how a request path
names one of them.
-/

namespace GitGateway

/-- What a client asks of a repository. -/
inductive Operation where
  /-- A push. -/
  | receivePack
  /-- A fetch or a clone. -/
  | uploadPack
  deriving DecidableEq, Repr

namespace Operation

/-- The service name, as Git spells it. -/
def service : Operation → String
  | .receivePack => "git-receive-pack"
  | .uploadPack => "git-upload-pack"

/-- The content type of a successful answer. -/
def resultType : Operation → String
  | .receivePack => "application/x-git-receive-pack-result"
  | .uploadPack => "application/x-git-upload-pack-result"

/-- What a path ends in: the text after its last `/`, slashes at the end set aside. -/
def lastSegment (path : String) : List Char :=
  ((path.toList.reverse.dropWhile (· == '/')).takeWhile (· != '/')).reverse

/-- The operation whose service name is the last segment of the path. -/
def ofPath? (path : String) : Option Operation :=
  if lastSegment path = (service .receivePack).toList then some .receivePack
  else if lastSegment path = (service .uploadPack).toList then some .uploadPack
  else none

end Operation

end GitGateway
