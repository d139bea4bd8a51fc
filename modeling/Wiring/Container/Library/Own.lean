import Wiring.Container.Library.Standard

/-!
The modules of the library that units are made for, and of those that it is built on.
-/

namespace Wiring.Container.Library

def ownClasses : List (String × String × List String) :=
  [("click", "click.core", words
      ["Argument Command Context Group Option Parameter"]),
   ("miraveja_digen", "miraveja_digen.application.generator", words
      ["DIGenerator"]),
   ("miraveja_digen", "miraveja_digen.domain.enums", words
      ["DiagnosticSeverity Lifetime MemberKind Visibility"]),
   ("miraveja_digen", "miraveja_digen.domain.exceptions", words
      ["CircularDependencyError CircularInheritanceError DIGenException DeclarationError LifetimeError",
       "ScopeError UnresolvableError"]),
   ("miraveja_digen", "miraveja_digen.domain.models", words
      ["Annotation DeclarationSet Diagnostic GenerationResult MemberDeclaration Parameter SourceLocation",
       "SourceUnit TypeDeclaration TypeRef"]),
   ("miraveja_digen", "miraveja_digen.domain.settings", words
      ["GeneratorSettings"]),
   ("miraveja_digen", "miraveja_digen.infrastructure.runtime.collection", words
      ["ServiceCollection"]),
   ("miraveja_digen", "miraveja_digen.infrastructure.runtime.context_logger", words
      ["ContextLogger"]),
   ("miraveja_digen", "miraveja_digen.infrastructure.runtime.provider", words
      ["ServiceProvider"]),
   ("miraveja_digen", "miraveja_digen.infrastructure.sinks", words
      ["FileSystemSourceSink InMemorySourceSink"]),
   ("miraveja_digen.application", "miraveja_digen.application.collector", words
      ["CollectedType DependencyCollection DependencyCollector"]),
   ("miraveja_digen.application", "miraveja_digen.application.constructor_synthesizer", words
      ["ConstructorSynthesizer"]),
   ("miraveja_digen.application", "miraveja_digen.application.conventions", words
      ["Ancestor AutoInterfaceLink Conventions"]),
   ("miraveja_digen.application", "miraveja_digen.application.emitter", words
      ["ImportTable SourceEmitter"]),
   ("miraveja_digen.application", "miraveja_digen.application.generator", words
      ["DIGenerator"]),
   ("miraveja_digen.application", "miraveja_digen.application.interface_synthesizer", words
      ["InterfaceSynthesizer"]),
   ("miraveja_digen.application", "miraveja_digen.application.registration_builder", words
      ["RegistrationGraph RegistrationGraphBuilder"]),
   ("miraveja_digen.application", "miraveja_digen.application.validator", words
      ["GraphValidator"]),
   ("miraveja_digen.domain", "miraveja_digen.domain.enums", words
      ["DiagnosticSeverity Lifetime MemberKind Visibility"]),
   ("miraveja_digen.domain", "miraveja_digen.domain.exceptions", words
      ["CircularDependencyError CircularInheritanceError DIGenException DeclarationError LifetimeError",
       "ScopeError UnresolvableError"]),
   ("miraveja_digen.domain", "miraveja_digen.domain.interfaces", words
      ["IServiceCollection IServiceProvider ISourceSink"]),
   ("miraveja_digen.domain", "miraveja_digen.domain.models", words
      ["Annotation DeclarationSet DependencyEdge Diagnostic DiagnosticDescriptor GenerationResult",
       "InitializerParameter InitializerPlan InterfacePlan MemberDeclaration Parameter ServiceEntry",
       "SourceLocation SourceUnit TypeBound TypeDeclaration TypeRef"]),
   ("miraveja_digen.domain", "miraveja_digen.domain.settings", words
      ["GeneratorSettings"]),
   ("miraveja_digen.domain.diagnostics", "miraveja_digen.domain.enums", words
      ["DiagnosticSeverity"]),
   ("miraveja_digen.domain.diagnostics", "miraveja_digen.domain.models", words
      ["DiagnosticDescriptor"]),
   ("miraveja_digen.domain.enums", "miraveja_digen.domain.enums", words
      ["DiagnosticSeverity Lifetime MemberKind Visibility"]),
   ("miraveja_digen.domain.exceptions", "miraveja_digen.domain.exceptions", words
      ["CircularDependencyError CircularInheritanceError DIGenException DeclarationError LifetimeError",
       "ScopeError UnresolvableError"]),
   ("miraveja_digen.domain.interfaces", "miraveja_digen.domain.enums", words
      ["Lifetime"]),
   ("miraveja_digen.domain.interfaces", "miraveja_digen.domain.interfaces", words
      ["IServiceCollection IServiceProvider ISourceSink"]),
   ("miraveja_digen.domain.interfaces", "miraveja_digen.domain.models", words
      ["SourceUnit"]),
   ("miraveja_digen.domain.models", "miraveja_digen.domain.enums", words
      ["DiagnosticSeverity Lifetime MemberKind Visibility"]),
   ("miraveja_digen.domain.models", "miraveja_digen.domain.exceptions", words
      ["DeclarationError"]),
   ("miraveja_digen.domain.models", "miraveja_digen.domain.models", words
      ["Annotation DeclarationSet DependencyEdge Diagnostic DiagnosticDescriptor GenerationResult",
       "InitializerParameter InitializerPlan InterfacePlan MemberDeclaration Parameter ServiceEntry",
       "SourceLocation SourceUnit TypeBound TypeDeclaration TypeRef"]),
   ("miraveja_digen.domain.models", "pydantic.config", words
      ["ConfigDict"]),
   ("miraveja_digen.domain.models", "pydantic.main", words
      ["BaseModel"]),
   ("miraveja_digen.domain.settings", "miraveja_digen.domain.enums", words
      ["Lifetime"]),
   ("miraveja_digen.domain.settings", "miraveja_digen.domain.settings", words
      ["GeneratorSettings"]),
   ("miraveja_digen.domain.settings", "pydantic_settings.main", words
      ["BaseSettings SettingsConfigDict"]),
   ("miraveja_digen.infrastructure", "miraveja_digen.infrastructure.sinks", words
      ["FileSystemSourceSink InMemorySourceSink"]),
   ("miraveja_digen.infrastructure.runtime", "miraveja_digen.infrastructure.runtime.collection", words
      ["ServiceCollection"]),
   ("miraveja_digen.infrastructure.runtime", "miraveja_digen.infrastructure.runtime.context_logger", words
      ["ContextLogger"]),
   ("miraveja_digen.infrastructure.runtime", "miraveja_digen.infrastructure.runtime.descriptors", words
      ["ServiceDescriptor"]),
   ("miraveja_digen.infrastructure.runtime", "miraveja_digen.infrastructure.runtime.lifetime_manager", words
      ["LifetimeManager"]),
   ("miraveja_digen.infrastructure.runtime", "miraveja_digen.infrastructure.runtime.provider", words
      ["ServiceProvider"]),
   ("miraveja_digen.infrastructure.runtime", "miraveja_digen.infrastructure.runtime.resolution_path", words
      ["ResolutionPath"]),
   ("miraveja_digen.infrastructure.runtime", "miraveja_digen.infrastructure.runtime.resolver", words
      ["DependencyResolver"]),
   ("miraveja_digen.infrastructure.runtime.collection", "miraveja_digen.domain.enums", words
      ["Lifetime"]),
   ("miraveja_digen.infrastructure.runtime.collection", "miraveja_digen.domain.exceptions", words
      ["LifetimeError"]),
   ("miraveja_digen.infrastructure.runtime.collection", "miraveja_digen.domain.interfaces", words
      ["IServiceCollection"]),
   ("miraveja_digen.infrastructure.runtime.collection", "miraveja_digen.infrastructure.runtime.collection", words
      ["ServiceCollection"]),
   ("miraveja_digen.infrastructure.runtime.collection", "miraveja_digen.infrastructure.runtime.context_logger", words
      ["ContextLogger"]),
   ("miraveja_digen.infrastructure.runtime.collection", "miraveja_digen.infrastructure.runtime.descriptors", words
      ["ServiceDescriptor"]),
   ("miraveja_digen.infrastructure.runtime.collection", "miraveja_digen.infrastructure.runtime.provider", words
      ["ServiceProvider"]),
   ("miraveja_digen.infrastructure.runtime.context_logger", "miraveja_digen.infrastructure.runtime.context_logger", words
      ["ContextLogger"]),
   ("miraveja_digen.infrastructure.runtime.descriptors", "miraveja_digen.domain.enums", words
      ["Lifetime"]),
   ("miraveja_digen.infrastructure.runtime.descriptors", "miraveja_digen.infrastructure.runtime.descriptors", words
      ["ServiceDescriptor"]),
   ("miraveja_digen.infrastructure.runtime.descriptors", "pydantic.config", words
      ["ConfigDict"]),
   ("miraveja_digen.infrastructure.runtime.descriptors", "pydantic.main", words
      ["BaseModel"]),
   ("miraveja_digen.infrastructure.runtime.lifetime_manager", "miraveja_digen.domain.enums", words
      ["Lifetime"]),
   ("miraveja_digen.infrastructure.runtime.lifetime_manager", "miraveja_digen.domain.exceptions", words
      ["CircularDependencyError LifetimeError ScopeError UnresolvableError"]),
   ("miraveja_digen.infrastructure.runtime.lifetime_manager", "miraveja_digen.infrastructure.runtime.lifetime_manager", words
      ["LifetimeManager"]),
   ("miraveja_digen.infrastructure.runtime.provider", "miraveja_digen.domain.exceptions", words
      ["ScopeError UnresolvableError"]),
   ("miraveja_digen.infrastructure.runtime.provider", "miraveja_digen.domain.interfaces", words
      ["IServiceProvider"]),
   ("miraveja_digen.infrastructure.runtime.provider", "miraveja_digen.infrastructure.runtime.descriptors", words
      ["ServiceDescriptor"]),
   ("miraveja_digen.infrastructure.runtime.provider", "miraveja_digen.infrastructure.runtime.lifetime_manager", words
      ["LifetimeManager"]),
   ("miraveja_digen.infrastructure.runtime.provider", "miraveja_digen.infrastructure.runtime.provider", words
      ["ServiceProvider"]),
   ("miraveja_digen.infrastructure.runtime.provider", "miraveja_digen.infrastructure.runtime.resolution_path", words
      ["ResolutionPath"]),
   ("miraveja_digen.infrastructure.runtime.provider", "miraveja_digen.infrastructure.runtime.resolver", words
      ["DependencyResolver"]),
   ("miraveja_digen.infrastructure.runtime.resolution_path", "miraveja_digen.domain.exceptions", words
      ["CircularDependencyError"]),
   ("miraveja_digen.infrastructure.runtime.resolution_path", "miraveja_digen.infrastructure.runtime.resolution_path", words
      ["ResolutionPath"]),
   ("miraveja_digen.infrastructure.runtime.resolver", "miraveja_digen.domain.exceptions", words
      ["CircularDependencyError ScopeError UnresolvableError"]),
   ("miraveja_digen.infrastructure.runtime.resolver", "miraveja_digen.infrastructure.runtime.resolver", words
      ["DependencyResolver"]),
   ("miraveja_digen.infrastructure.sinks", "miraveja_digen.domain.interfaces", words
      ["ISourceSink"]),
   ("miraveja_digen.infrastructure.sinks", "miraveja_digen.domain.models", words
      ["SourceUnit"]),
   ("miraveja_digen.infrastructure.sinks", "miraveja_digen.infrastructure.sinks", words
      ["FileSystemSourceSink InMemorySourceSink"]),
   ("miraveja_digen.infrastructure.testing", "miraveja_digen.infrastructure.testing.utilities", words
      ["TestServiceCollection"]),
   ("miraveja_digen.infrastructure.testing.utilities", "miraveja_digen.domain.enums", words
      ["Lifetime MemberKind Visibility"]),
   ("miraveja_digen.infrastructure.testing.utilities", "miraveja_digen.domain.models", words
      ["Annotation GenerationResult MemberDeclaration Parameter SourceLocation SourceUnit TypeBound",
       "TypeDeclaration TypeRef"]),
   ("miraveja_digen.infrastructure.testing.utilities", "miraveja_digen.infrastructure.runtime.collection", words
      ["ServiceCollection"]),
   ("miraveja_digen.infrastructure.testing.utilities", "miraveja_digen.infrastructure.runtime.provider", words
      ["ServiceProvider"]),
   ("miraveja_digen.infrastructure.testing.utilities", "miraveja_digen.infrastructure.testing.utilities", words
      ["TestServiceCollection"]),
   ("pydantic", "pydantic.config", words
      ["ConfigDict"]),
   ("pydantic", "pydantic.functional_validators", words
      ["AfterValidator BeforeValidator PlainValidator WrapValidator"]),
   ("pydantic", "pydantic.main", words
      ["BaseModel"]),
   ("pydantic", "pydantic.networks", words
      ["EmailStr NameEmail"]),
   ("pydantic", "pydantic.root_model", words
      ["RootModel"]),
   ("pydantic", "pydantic.type_adapter", words
      ["TypeAdapter"]),
   ("pydantic", "pydantic.types", words
      ["SecretBytes SecretStr ByteSize StringConstraints"]),
   ("pydantic", "pydantic_core._pydantic_core", words
      ["ValidationError"]),
   ("pydantic_settings", "pydantic_settings.main", words
      ["BaseSettings SettingsConfigDict"])]

def ownFunctions : List (String × List String) :=
  [("click", words
      ["argument command confirm echo group option pass_context prompt secho style"]),
   ("miraveja_digen.domain.exceptions", words
      ["type_name"]),
   ("miraveja_digen.domain.models", words
      ["Field PrivateAttr model_validator"]),
   ("miraveja_digen.domain.settings", words
      ["Field"]),
   ("miraveja_digen.infrastructure", words
      ["configure_logging"]),
   ("miraveja_digen.infrastructure.runtime.context_logger", words
      ["context_name"]),
   ("miraveja_digen.infrastructure.runtime.descriptors", words
      ["Field"]),
   ("miraveja_digen.infrastructure.runtime.resolution_path", words
      ["type_name"]),
   ("miraveja_digen.infrastructure.runtime.resolver", words
      ["substitute type_arguments"]),
   ("miraveja_digen.infrastructure.testing", words
      ["build_provider dependency exec_unit installed_module interface_type load_units location method",
       "plain_type prop ref service_type type_param"]),
   ("miraveja_digen.infrastructure.testing.utilities", words
      ["build_provider dependency exec_unit installed_module interface_type load_units location method",
       "plain_type prop ref service_type type_param"]),
   ("pydantic", words
      ["Field PrivateAttr computed_field create_model field_serializer field_validator model_serializer",
       "model_validator validate_call"]),
   ("structlog", words
      ["configure get_config get_logger is_configured make_filtering_bound_logger reset_defaults wrap_logger"])]

def ownTyping : List (String × List String) :=
  [("miraveja_digen.domain.exceptions", words
      ["Any List Optional Sequence get_args get_origin"]),
   ("miraveja_digen.domain.interfaces", words
      ["Any Optional Type TypeVar"]),
   ("miraveja_digen.domain.models", words
      ["Any Dict Optional Tuple"]),
   ("miraveja_digen.domain.settings", words
      ["Optional Tuple"]),
   ("miraveja_digen.infrastructure.runtime.collection", words
      ["Any Callable Dict Iterator Optional Union"]),
   ("miraveja_digen.infrastructure.runtime.context_logger", words
      ["Any Generic Optional TypeVar get_args"]),
   ("miraveja_digen.infrastructure.runtime.descriptors", words
      ["Any Callable Optional Tuple get_origin"]),
   ("miraveja_digen.infrastructure.runtime.lifetime_manager", words
      ["Any Callable Dict Optional"]),
   ("miraveja_digen.infrastructure.runtime.provider", words
      ["Any Dict Mapping Optional Tuple Type TypeVar get_args get_origin"]),
   ("miraveja_digen.infrastructure.runtime.resolution_path", words
      ["Any Iterator List Tuple"]),
   ("miraveja_digen.infrastructure.runtime.resolver", words
      ["Any Dict TYPE_CHECKING TypeVar get_args get_origin get_type_hints"]),
   ("miraveja_digen.infrastructure.sinks", words
      ["Dict List Union"]),
   ("miraveja_digen.infrastructure.testing.utilities", words
      ["Any Callable Dict Iterable Iterator List Mapping Optional Sequence TypeVar"])]

def ownModules : List String :=
  words
    ["annotated_types click jinja2 miraveja_digen miraveja_digen.application miraveja_digen.domain",
     "miraveja_digen.domain.diagnostics miraveja_digen.domain.enums miraveja_digen.domain.exceptions",
     "miraveja_digen.domain.interfaces miraveja_digen.domain.models miraveja_digen.domain.settings",
     "miraveja_digen.infrastructure miraveja_digen.infrastructure.runtime",
     "miraveja_digen.infrastructure.runtime.collection miraveja_digen.infrastructure.runtime.context_logger",
     "miraveja_digen.infrastructure.runtime.descriptors miraveja_digen.infrastructure.runtime.lifetime_manager",
     "miraveja_digen.infrastructure.runtime.provider miraveja_digen.infrastructure.runtime.resolution_path",
     "miraveja_digen.infrastructure.runtime.resolver miraveja_digen.infrastructure.sinks",
     "miraveja_digen.infrastructure.testing miraveja_digen.infrastructure.testing.utilities pydantic",
     "pydantic_core pydantic_settings structlog typer typing_extensions"]

end Wiring.Container.Library
