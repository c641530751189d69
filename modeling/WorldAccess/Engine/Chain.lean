import WorldAccess.Engine.Checker
import WorldAccess.Engine.Config

/-!
# Chains of checkers

The chain of an operation begins with the two checkers that guard every operation, goes on with its
own, and ends with what the configuration and the caller append. Names in the configuration that
stand for nothing are passed over.

## Main definitions

* `Checker.leading`, `Operation.builtin`
* `Config.appended` — the checkers that a configuration appends to an operation
* `Operation.chain` — the whole chain of an operation
-/

namespace WorldAccess

/-- The checkers that lead every chain. -/
def Checker.leading : List Checker := [.crossSite, .admin]

/-- The checkers of an operation's own. -/
def Operation.builtin : Operation → List Checker
  | .getContains => [.getContains]
  | .getEntityField => [.getEntityField]
  | .setEntityField => [.setEntityField]
  | .getApplicationProperty => [.getApplicationProperty]
  | .setApplicationProperty => [.setApplicationProperty]
  | .getApplicationSecurity => [.applicationSecurity]
  | .setApplicationSecurity => [.applicationSecurity]
  | .createApplication => [.createApplication]
  | .deleteApplication => [.deleteApplication]
  | .createEntity => [.createEntity]
  | .deleteEntity => [.deleteEntity]
  | .findByNameRelative => [.acceptAll]
  | .findCharacterByName => [.findCharacterByName]
  | .convertIdToName => [.convertIdToName]
  | .useAction => [.useAction]
  | .transferEntity => [.transferEntity]
  | .sendTextRoom => [.sendTextRoom]
  | .sendTextRoomUnrestricted => [.sendTextRoomUnrestricted]
  | .sendTextEntity => [.sendTextEntity]
  | .characterOnline => [.characterOnline]
  | .runAsRequester => [.runAsRequester]

/-- Whether a key of the configuration is the word for an operation, read as operations are. -/
def Operation.isWrittenAs (op : Operation) (key : String) : Bool :=
  match Operation.parse key with
  | .ok other => other == op
  | .error _ => false

/-- The known checkers that a configuration appends to an operation, in the order of its keys and
then of the list under each. -/
def Config.appended (c : Config) (op : Operation) : List Checker :=
  c.extraCheckers.toList.flatMap fun (key, names) =>
    if op.isWrittenAs key then names.filterMap Checker.ofName? else []

/-- The checkers that a caller appends to an operation. -/
def suppliedTo (op : Operation) (extras : List (Operation × Checker)) : List Checker :=
  (extras.filter fun extra => extra.1 == op).map Prod.snd

/-- The chain of an operation. -/
def Operation.chain (op : Operation) (c : Config) (extras : List (Operation × Checker)) :
    List Checker :=
  Checker.leading ++ op.builtin ++ c.appended op ++ suppliedTo op extras

end WorldAccess
