/-
# HookAudit.Taxonomy — risk names, categories and capabilities.

A risk name is a capture name under one of three tiers.  The table of categories gives each family
of names a prefix, a weight and the capabilities it implies; a name belongs to the first category
whose prefix it starts with, and the table lists a longer prefix before a shorter one that begins
it.  Beside the table stands the *substring rule*, which reads capabilities off the name itself.
-/
import HookAudit.Text.CodePoint

namespace HookAudit

/-! ## Capabilities -/

/-- What a hook is able to do. -/
structure Capabilities where
  /-- Reads or changes files. -/
  fileSystem : Bool := false
  /-- Reaches the network. -/
  network : Bool := false
  /-- Runs processes or code. -/
  processExecution : Bool := false
  /-- Imports modules that give raw access. -/
  dangerousImports : Bool := false
  /-- Reads credentials or secrets. -/
  credentialAccess : Bool := false
deriving DecidableEq, Repr

namespace Capabilities

/-- No capability. -/
def none : Capabilities := {}

/-- What either of two sets of capabilities allows. -/
def union (a b : Capabilities) : Capabilities where
  fileSystem := a.fileSystem || b.fileSystem
  network := a.network || b.network
  processExecution := a.processExecution || b.processExecution
  dangerousImports := a.dangerousImports || b.dangerousImports
  credentialAccess := a.credentialAccess || b.credentialAccess

/-- What any of several sets of capabilities allows. -/
def unions (all : List Capabilities) : Capabilities := all.foldl union none

/-- The names of the capabilities, in their fixed order. -/
def names (c : Capabilities) : List Text :=
  (if c.fileSystem then [Text.ofString "FILE_SYSTEM"] else [])
    ++ (if c.network then [Text.ofString "NETWORK"] else [])
    ++ (if c.processExecution then [Text.ofString "PROCESS_EXECUTION"] else [])
    ++ (if c.dangerousImports then [Text.ofString "DANGEROUS_IMPORTS"] else [])
    ++ (if c.credentialAccess then [Text.ofString "CREDENTIAL_ACCESS"] else [])

/-- The capabilities with a given name. -/
def ofName? (name : Text) : Option Capabilities :=
  if name == ("NONE" : Text) then some {}
  else if name == ("FILE_SYSTEM" : Text) then some { fileSystem := true }
  else if name == ("NETWORK" : Text) then some { network := true }
  else if name == ("PROCESS_EXECUTION" : Text) then some { processExecution := true }
  else if name == ("DANGEROUS_IMPORTS" : Text) then some { dangerousImports := true }
  else if name == ("CREDENTIAL_ACCESS" : Text) then some { credentialAccess := true }
  else .none

/-- The substring rule: the capabilities that pieces of a name give away. -/
def ofRiskName (name : Text) : Capabilities where
  fileSystem := Text.contains "fs" name
  network := Text.contains "net" name
  processExecution := Text.contains "exec" name || Text.contains "eval" name
  dangerousImports := Text.contains "danger.import" name
  credentialAccess := Text.contains "taint.env" name

end Capabilities

/-! ## Categories -/

/-- The families of risk names. -/
inductive RiskCategory where
  | dangerExec | dangerNetExec | dangerEval | dangerFsDelete | dangerFsWrite | dangerFs | dangerNet
  | warnFsWrite | warnFs | warnNet | warnEnv
  | dangerUnquotedExpansion | dangerSubst | taintEnv | dangerImport
  | unclassified
deriving DecidableEq, Repr

namespace RiskCategory

/-- The categories with a prefix of their own, in the order in which they are tried. -/
def ranked : List RiskCategory :=
  [dangerExec, dangerNetExec, dangerEval, dangerFsDelete, dangerFsWrite, dangerFs, dangerNet,
   warnFsWrite, warnFs, warnNet, warnEnv, dangerUnquotedExpansion, dangerSubst, taintEnv,
   dangerImport]

/-- What the names of a category start with. -/
def prefixText : RiskCategory → Text
  | dangerExec => "danger.exec"
  | dangerNetExec => "danger.netexec"
  | dangerEval => "danger.eval"
  | dangerFsDelete => "danger.fsdelete"
  | dangerFsWrite => "danger.fswrite"
  | dangerFs => "danger.fs"
  | dangerNet => "danger.net"
  | warnFsWrite => "warn.fswrite"
  | warnFs => "warn.fs"
  | warnNet => "warn.net"
  | warnEnv => "warn.env"
  | dangerUnquotedExpansion => "danger.unquoted_expansion"
  | dangerSubst => "danger.subst"
  | taintEnv => "taint.env"
  | dangerImport => "danger.import"
  | unclassified => ""

/-- What one finding of a category adds to the risk score. -/
def weight : RiskCategory → Nat
  | dangerExec | dangerNetExec | dangerEval => 30
  | dangerFsDelete | dangerFsWrite => 25
  | dangerFs | dangerNet => 20
  | warnFsWrite | warnFs | warnNet | warnEnv => 10
  | dangerUnquotedExpansion | dangerSubst => 15
  | taintEnv | dangerImport | unclassified => 5

/-- The capabilities that a category implies. -/
def capabilities : RiskCategory → Capabilities
  | dangerExec | dangerEval => { processExecution := true }
  | dangerNetExec => { network := true, processExecution := true }
  | dangerFsDelete | dangerFsWrite | dangerFs | warnFsWrite | warnFs => { fileSystem := true }
  | dangerNet | warnNet => { network := true }
  | taintEnv => { credentialAccess := true }
  | dangerImport => { dangerousImports := true }
  | warnEnv | dangerUnquotedExpansion | dangerSubst | unclassified => {}

/-- The name under which a category is reported. -/
def label : RiskCategory → Text
  | dangerExec => "DANGER_EXEC"
  | dangerNetExec => "DANGER_NET_EXEC"
  | dangerEval => "DANGER_EVAL"
  | dangerFsDelete => "DANGER_FS_DELETE"
  | dangerFsWrite => "DANGER_FS_WRITE"
  | dangerFs => "DANGER_FS"
  | dangerNet => "DANGER_NET"
  | warnFsWrite => "WARN_FS_WRITE"
  | warnFs => "WARN_FS"
  | warnNet => "WARN_NET"
  | warnEnv => "WARN_ENV"
  | dangerUnquotedExpansion => "DANGER_UNQUOTED_EXPANSION"
  | dangerSubst => "DANGER_SUBST"
  | taintEnv => "TAINT_ENV"
  | dangerImport => "DANGER_IMPORT"
  | unclassified => "UNCLASSIFIED"

/-- The category of a name: the first whose prefix the name starts with. -/
def classify (name : Text) : RiskCategory :=
  (ranked.find? fun category => name.startsWith category.prefixText).getD unclassified

/-- The capabilities of a name in a category: the declared ones and those of the substring rule. -/
def capabilitiesOf (category : RiskCategory) (name : Text) : Capabilities :=
  category.capabilities.union (.ofRiskName name)

end RiskCategory

/-- The beginnings of risk names; every other capture name only serves predicates. -/
def riskTiers : List Text := ["danger.", "warn.", "taint."]

/-- Whether a capture name is a risk name. -/
def isRiskName (name : Text) : Bool := riskTiers.any name.startsWith

/-- What one capture with this name adds to the risk score. -/
def severity (name : Text) : Nat := (RiskCategory.classify name).weight

end HookAudit
