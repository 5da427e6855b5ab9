import NodeWorkflow.Platform.Url.Basic

/-!
# Targets of requests

The target of a request is an address, or the part of one behind the host. What is asked for is told
by its path, without dots and escapes; query and fragment are not looked at.

Part of the platform: the framework of the service finds the path of a request this way, before a
route is looked for. No statement of the library is about it.

## Main definitions

* `Target.path?` is the path of a target.
-/

namespace NodeWorkflow.Service.Target

/-- The address under which the service is reached. -/
def home : Url where
  scheme := "http".toList
  userinfo := []
  host := "localhost".toList
  port := none
  path := []
  query := none
  fragment := none

/-- The path of a target, unless the target is no address. -/
def path? (target : String) : Option (List Char) :=
  (home.at? target).map Url.plainPath

end NodeWorkflow.Service.Target
