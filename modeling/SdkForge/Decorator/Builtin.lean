import SdkForge.Decorator
import SdkForge.Protocol.Standard

/-!
# The decorators that come along

`sdk-config` lets a client take its configuration from one that several clients share. `s3` adapts
the one service that needs it, and leaves all others alone. A manifest can name the decorators to
use; otherwise all of them are used.
-/

namespace SdkForge

namespace Decorator

/-! ## Shared configuration -/

/-- A statement that copies a setting, with what is applied to it. -/
def copySetting (field : String) (through : String := "") : ExtraContribution where
  place := .copySdkConfig
  write
    | .copySdkConfig sdkConfig builder =>
      .ok (some (.line s!"{builder}.set_{field}({sdkConfig}.{field}(){through});"))
    | _ => .ok none

/-- The function that makes a configuration from a shared one. -/
def fromSharedConfig (p : Project) : Fragment :=
  let shared := s!"{p.typesCrate}::sdk_config::SdkConfig"
  Code.Function.fragment {
    name := "new"
    doc :=
      some s!"Creates a new [service config](crate::Config) from a [shared `config`]({shared})."
    params := [⟨"config", s!"&{shared}"⟩]
    returns := some "Self"
    body := [.line "Builder::from(config).build()"] }

def sdkConfig : Decorator where
  name := "sdk-config"
  write p
    | .configImpl => .ok (some (fromSharedConfig p))
    | _ => .ok none
  extra _ :=
    [copySetting "retry_config" ".cloned()", copySetting "timeout_config" ".cloned()",
      copySetting "sleep_impl",
    copySetting "http_connector" ".cloned()"]

/-! ## The object store -/

/-- The service that the decorator is for. -/
def objectStore : ShapeId := ⟨"com.amazonaws.s3", "AmazonS3", none⟩

/-- The structures whose XML may have another root than their name. -/
def freeRoots : List ShapeId := [⟨"com.amazonaws.s3", "GetObjectAttributesOutput", none⟩]

/-- A structure that may have another root carries a trait that says so. -/
def allowFreeRoot (shape : Shape) : Shape :=
  if shape.isRecord && freeRoots.contains shape.id then shape.withTrait .allowInvalidXmlRoot
    else shape

/-- REST over XML, where an error without a body is known by its status. -/
def objectStoreXml : Protocol :=
  { Protocol.restXml with
    genericError := fun p _ => Protocol.genericErrorFunction p [
      .block "if response.body().is_empty() \x7b" [
        .line s!"let mut builder = {p.typesCrate}::error::ErrorMetadata::builder();",
        .braced "if response.status().as_u16() == 404 \x7b"
        [.line "builder = builder.code(\"NotFound\");"], .line "Ok(builder)"]
          (some "\x7d else \x7b"),
      .indent [.line (Protocol.xmlErrorCall p)],
      .line "\x7d"] }

/-- What the decorator writes for the service that it is for. -/
def objectStoreWrite (p : Project) : Contributor
  | .genericErrorExtras _ builder response =>
    .ok (some (.line
      s!"{builder} = {p.typesCrate}::s3::apply_extended_error({builder}, {response}.headers());"))
  | .libBody => .ok (some (.line s!"pub use {p.typesCrate}::s3::ErrorExt;"))
  | _ => .ok none

def s3 : Decorator where
  name := "s3"
  write p := if p.service = objectStore then objectStoreWrite p else fun _ => .ok none
  transform service model :=
    if service = objectStore then Fault.ofModel (model.toDraft.map allowFreeRoot).build
      else .ok model
  protocols service protocols :=
    if service = objectStore then protocols.insert .restXml objectStoreXml else protocols

/-! ## Selection -/

/-- All decorators that come along. -/
def builtin : List Decorator := [sdkConfig, s3]

def builtinNames : List String := builtin.map (·.name)

end Decorator

/-- The decorators that a manifest names, or all. -/
def DecoratorSet.select (enabled : Option (List String)) : Except Fault DecoratorSet :=
  match enabled with
  | none => ofList Decorator.builtin
  | some enabled =>
    match enabled.find? (!Decorator.builtinNames.contains ·) with
    | some name => .error (.unknownDecorator name Decorator.builtinNames)
    | none => ofList (Decorator.builtin.filter fun d => enabled.contains d.name)

end SdkForge
