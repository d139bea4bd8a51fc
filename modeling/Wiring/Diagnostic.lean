import Wiring.Declaration
import Wiring.Text.Template
import Wiring.TypeRef.Argument

/-!
Diagnostics of a generation pass and the descriptors they are made from.
-/

namespace Wiring

structure Diagnostic where
  code : String
  severity : Severity
  message : String
  arguments : List String := []
  location : Option SourceLocation := none
  deriving DecidableEq

def Diagnostic.text (d : Diagnostic) : String :=
  let place := match d.location with
    | none => ""
    | some l => l.text ++ ": "
  place ++ Named.text d.severity ++ " " ++ d.code ++ ": " ++ d.message

structure DiagnosticDescriptor where
  code : String
  title : String
  messageTemplate : String
  severity : Severity
  deriving DecidableEq

namespace DiagnosticDescriptor

def create (d : DiagnosticDescriptor) (location : Option SourceLocation) (arguments : List Text.Template.Value) :
    Except Text.Template.Fault Diagnostic :=
  (Text.Template.fill d.messageTemplate arguments).map fun message =>
    { code := d.code, severity := d.severity, message, arguments := arguments.map (·.shown), location }

def duplicateLifetime : DiagnosticDescriptor where
  code := "DIGEN001"
  title := "Duplicate lifetime annotations not allowed"
  messageTemplate := "More than one lifetime annotation is specified on type '\x7b0\x7d'. " ++
    "A service may only have one lifetime."
  severity := .error

def missingDependency : DiagnosticDescriptor where
  code := "DIGEN002"
  title := "Dependency not found"
  messageTemplate := "A required dependency '\x7b0\x7d' does not appear to be registered. " ++
    "Did you forget to register it?"
  severity := .warning

def unregistrableService : DiagnosticDescriptor where
  code := "DIGEN003"
  title := "Service cannot be registered"
  messageTemplate := "Service '\x7b0\x7d' cannot be mapped to open generic implementation '\x7b1\x7d' and was skipped."
  severity := .warning

def known : List DiagnosticDescriptor :=
  [duplicateLifetime, missingDependency, unregistrableService]

end DiagnosticDescriptor

namespace Diagnostic

def duplicateLifetime (location : Option SourceLocation) (type : String) : Diagnostic where
  code := "DIGEN001"
  severity := .error
  message := "More than one lifetime annotation is specified on type '" ++ type ++
    "'. A service may only have one lifetime."
  arguments := [type]
  location := location

def missingDependency (location : Option SourceLocation) (required : TypeRef) : Diagnostic where
  code := "DIGEN002"
  severity := .warning
  message := "A required dependency '" ++ required.text ++
    "' does not appear to be registered. Did you forget to register it?"
  arguments := [required.text]
  location := location

def unregistrableService (location : Option SourceLocation) (service implementation : TypeRef) : Diagnostic where
  code := "DIGEN003"
  severity := .warning
  message := "Service '" ++ service.text ++ "' cannot be mapped to open generic implementation '" ++
    implementation.text ++ "' and was skipped."
  arguments := [service.text, implementation.text]
  location := location

end Diagnostic

end Wiring
