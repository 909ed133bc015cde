import SdkForge.Crate.ServerFile
import SdkForge.Protocol.Standard

/-!
# The files of a client

The client, its configuration, and the functions that read errors.
-/

namespace SdkForge.Crate

/-! ## The client -/

namespace ClientFile

/-- The functions of a client. -/
def functions : List Code.Function := [
  { name := "from_conf"
    doc := some "Creates a client from a service config."
    params := [⟨"config", "crate::config::Config"⟩]
    returns := some "Self"
    body := [.line "Self \x7b config \x7d"] },
  { name := "config"
    params := [⟨"&self", ""⟩]
    returns := some "&crate::config::Config"
    body := [.line "&self.config"] }]

end ClientFile

/-- The text of a client's service file. -/
def Blueprint.clientFile (b : Blueprint) : Except Fault String := do
  let service := b.project.serviceName
  let client := Fragment.seq [
    .doc (← b.serviceDoc),
    .line "#[derive(Debug, Clone)]",
    .braced (s!"pub struct {service} " ++ "\x7b") [.line "config: crate::config::Config,"]]
  return (({ doc := some s!"The {service} client." } : Code.SourceFile).addAll [
    client,
    (ClientFile.functions.foldl Code.Implementation.method { type := service }).fragment]).render

/-! ## The configuration -/

namespace ConfigFile

/-- A setting, which may be missing. -/
structure Setting where
  name : String
  type : String

/-- The settings that every client has, with types of a crate. -/
def settings (types : String) : List Setting := [
  ⟨"retry_config", s!"{types}::config::RetryConfig"⟩,
  ⟨"timeout_config", s!"{types}::config::TimeoutConfig"⟩,
  ⟨"sleep_impl", s!"{types}::config::SharedAsyncSleep"⟩,
  ⟨"http_connector", s!"{types}::config::HttpConnector"⟩]

namespace Setting

/-- The field of a setting. -/
def field (s : Setting) : Fragment := .line s!"{s.name}: Option<{s.type}>,"

/-- The function that gives a setting. -/
def getter (s : Setting) : Code.Function where
  name := s.name
  params := [⟨"&self", ""⟩]
  returns := some s!"Option<&{s.type}>"
  body := [.line s!"self.{s.name}.as_ref()"]

/-- The function that sets a setting. -/
def setter (s : Setting) : Code.Function where
  name := "set_" ++ s.name
  params := [⟨"&mut self", ""⟩, ⟨s.name, s!"Option<{s.type}>"⟩]
  returns := some "&mut Self"
  body := [.line s!"self.{s.name} = {s.name};", .line "self"]

/-- The initializer of a setting in the configuration that is built. -/
def initializer (s : Setting) : Fragment := .line s!"{s.name}: self.{s.name},"

end Setting

/-- A structure with settings and what decorators add to it. -/
def settingsDecl (doc derives name : String) (settings : List Setting) (added : Fragment) :
    Fragment :=
  .seq [.doc doc, .line s!"#[derive({derives})]",
    .braced (s!"pub struct {name} " ++ "\x7b") (settings.map (·.field) ++ [added])]

/-- The functions of a configuration. -/
def configFunctions (settings : List Setting) : List Code.Function :=
  { name := "builder", doc := some "A builder for the config.", returns := some "Builder",
    body := [.line "Builder::default()"] } :: settings.map (·.getter)

/-- The functions of a builder, but for the one that builds. -/
def builderFunctions (settings : List Setting) : List Code.Function :=
  { name := "new", doc := some "Constructs a config builder.", returns := some "Self",
    body := [.line "Self::default()"] } :: settings.map (·.setter)

/-- The function that builds the configuration. -/
def buildFunction (settings : List Setting) (added : Fragment) : Code.Function where
  name := "build"
  doc := some "Builds the [`Config`]."
  params := [⟨"self", ""⟩]
  returns := some "Config"
  body := [.braced "Config \x7b" (settings.map (·.initializer) ++ [added])]

/-- What a shared configuration and the builder are called where settings are copied. -/
def sharedName : String := "input"
def builderVariable : String := "builder"

/-- A block that makes a type of a shared configuration. -/
def conversion (types type param : String) (body : List Fragment) : Fragment :=
  let shared := s!"&{types}::sdk_config::SdkConfig"
  (({ type, trait := some s!"From<{shared}>" } : Code.Implementation).method
    { name := "from", visibility := .module, params := [⟨param, shared⟩],
      returns := some "Self", body }).fragment

/-- The conversions from a shared configuration, if anything is copied. -/
def conversions (types : String) (copies : List Fragment) : List Fragment :=
  if copies.isEmpty then []
  else [
    conversion types "Builder" sharedName [
      .line s!"let mut {builderVariable} = Builder::default();", .seq copies,
      .line builderVariable],
    conversion types "Config" "sdk_config" [.line "Builder::from(sdk_config).build()"]]

end ConfigFile

open ConfigFile in
/-- The text of a client's configuration file. -/
def Blueprint.configFile (b : Blueprint) : Except Fault String := do
  let settings := settings b.types
  let config :=
    settingsDecl "Configuration for a client of this service." "Debug, Clone" "Config" settings
    (← b.contributed .configStruct)
  let configBlock :=
    ((configFunctions settings).foldl Code.Implementation.method { type := "Config" }).item
    (← b.contributed .configImpl)
  let builder := settingsDecl "Builder for [`Config`]." "Debug, Clone, Default" "Builder" settings
    (← b.contributed .configBuilderStruct)
  let build := buildFunction settings (← b.contributed .configBuilderBuild)
  let builderBlock :=
    (((builderFunctions settings).foldl Code.Implementation.method { type := "Builder" }).item
    (← b.contributed .configBuilderImpl)).method build
  let copies ← b.registry.render (.copySdkConfig sharedName builderVariable)
  return (({ doc := some "Configuration for the service client." } : Code.SourceFile).addAll
    ([config, configBlock.fragment, builder, builderBlock.fragment] ++
      conversions b.types copies)).render

/-! ## Errors -/

namespace ErrorFile

/-- What the response and the error under construction are called. -/
def response : String := "response"
def builder : String := "builder"

/-- The function that reads the error of an operation. -/
def errorFunction (types : String) (operation : ShapeId) (extras : Fragment) : Code.Function where
  name := s!"de_{Project.operationField operation}_error"
  doc := some s!"Error metadata of a failed `{operation.name}` response."
  params := [⟨response, s!"&{types}::http::Response<{types}::bytes::Bytes>"⟩]
  returns := some s!"Result<{types}::error::ErrorMetadata, {types}::error::DecodeError>"
  body := [
    .line "#[allow(unused_mut)]",
    .line s!"let mut {builder} = {Protocol.genericErrorName}({response})?;",
    extras,
    .line s!"Ok({builder}.build())"]

end ErrorFile

open ErrorFile in
/-- The text of a client's file that reads errors. What is common to all operations is made from the
first one. -/
def Blueprint.errorFile (b : Blueprint) : Except Fault String := do
  let operations ← Fault.ofModel b.project.operations
  match operations with
  | [] => throw (.noOperations b.project.service)
  | first :: _ =>
    let functions ← operations.mapM fun operation => do
      let extras ← b.contributed (.genericErrorExtras operation.id builder response)
      return (errorFunction b.types operation.id extras).fragment
    return (({ doc := some "Response deserializers." } : Code.SourceFile).addAll
      (b.protocol.genericError b.project first :: functions)).render

end SdkForge.Crate
