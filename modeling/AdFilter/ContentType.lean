import AdFilter.Text.Case
import AdFilter.Text.Numeral

namespace AdFilter

/-!
# Content types

A content type says what a request loads, or what else a rule acts on.  Every type has a bit of its own, and
a mask is a set of bits: the bits below 24 stand for resources, whether or not a type is declared for them, the
bits from 24 to 30 for the special types.  Masks may have bits without a type.
-/

/-- What a request loads, or what else a rule acts on. -/
inductive ContentType where
  | other
  | script
  | image
  | stylesheet
  | object
  | subdocument
  | websocket
  | webrtc
  | ping
  | xmlhttprequest
  | media
  | font
  | popup
  | csp
  | header
  | document
  | genericblock
  | elemhide
  | generichide
  deriving Repr, DecidableEq

namespace ContentType

/-- The content types in the order of their bits. -/
def all : List ContentType :=
  [.other, .script, .image, .stylesheet, .object, .subdocument, .websocket, .webrtc, .ping,
   .xmlhttprequest, .media, .font, .popup, .csp, .header, .document, .genericblock, .elemhide, .generichide]

/-- The position of the bit of a content type. -/
def bit : ContentType → Nat
  | .other => 0
  | .script => 1
  | .image => 2
  | .stylesheet => 3
  | .object => 4
  | .subdocument => 5
  | .websocket => 7
  | .webrtc => 8
  | .ping => 10
  | .xmlhttprequest => 11
  | .media => 14
  | .font => 15
  | .popup => 24
  | .csp => 25
  | .header => 26
  | .document => 27
  | .genericblock => 28
  | .elemhide => 29
  | .generichide => 30

/-- The name of a content type among the options of a rule. -/
def name : ContentType → Text
  | .other => "other".toList
  | .script => "script".toList
  | .image => "image".toList
  | .stylesheet => "stylesheet".toList
  | .object => "object".toList
  | .subdocument => "subdocument".toList
  | .websocket => "websocket".toList
  | .webrtc => "webrtc".toList
  | .ping => "ping".toList
  | .xmlhttprequest => "xmlhttprequest".toList
  | .media => "media".toList
  | .font => "font".toList
  | .popup => "popup".toList
  | .csp => "csp".toList
  | .header => "header".toList
  | .document => "document".toList
  | .genericblock => "genericblock".toList
  | .elemhide => "elemhide".toList
  | .generichide => "generichide".toList

/-- The name of a content type in capitals. -/
def capitalName (contentType : ContentType) : Text :=
  contentType.name.map Char.toUpper

/-- Further names, in capitals, that the options of a rule may use. -/
def aliases : List (Text × ContentType) :=
  [("XHR".toList, .xmlhttprequest),
   ("BACKGROUND".toList, .image),
   ("OBJECT_SUBREQUEST".toList, .object)]

/-- A name as it is compared: in capitals, with underscores for hyphens. -/
def comparedName (name : Text) : Text :=
  (name.flatMap Text.asciiCapital).map fun c => if c = '-' then '_' else c

/-- The content type that an option names, in any letter case. -/
def ofName? (name : Text) : Option ContentType :=
  let compared := comparedName name
  match aliases.lookup compared with
  | some contentType => some contentType
  | none => all.find? fun contentType => contentType.capitalName == compared

/-- What browsers call the kinds of requests. -/
def resourceNames : List (Text × ContentType) :=
  [("document".toList, .document),
   ("main_frame".toList, .document),
   ("sub_frame".toList, .subdocument),
   ("subdocument".toList, .subdocument),
   ("stylesheet".toList, .stylesheet),
   ("image".toList, .image),
   ("imageset".toList, .image),
   ("media".toList, .media),
   ("font".toList, .font),
   ("script".toList, .script),
   ("object".toList, .object),
   ("xhr".toList, .xmlhttprequest),
   ("xmlhttprequest".toList, .xmlhttprequest),
   ("fetch".toList, .xmlhttprequest),
   ("websocket".toList, .websocket),
   ("ping".toList, .ping),
   ("beacon".toList, .ping),
   ("texttrack".toList, .other),
   ("eventsource".toList, .other),
   ("manifest".toList, .other),
   ("other".toList, .other)]

/-- The content type of a kind of request, in any letter case; unknown kinds are `other`. -/
def ofResourceName (name : Text) : ContentType :=
  (resourceNames.lookup (Text.lower name)).getD .other

end ContentType

/-- A set of content types, as the number that has the bits of its members. -/
structure TypeMask where
  bits : Nat
  deriving Repr, DecidableEq

namespace TypeMask

/-- The mask without bits. -/
def empty : TypeMask := ⟨0⟩

/-- The mask of a single content type. -/
def ofType (contentType : ContentType) : TypeMask :=
  ⟨1 <<< contentType.bit⟩

/-- The mask of a list of content types. -/
def ofTypes (contentTypes : List ContentType) : TypeMask :=
  ⟨contentTypes.foldl (fun bits contentType => bits ||| 1 <<< contentType.bit) 0⟩

/-- The number of bits that stand for resources. -/
def resourceBits : Nat := 24

/-- All bits that stand for resources. -/
def resources : TypeMask := ⟨(1 <<< resourceBits) - 1⟩

/-- All bits of special types. -/
def special : TypeMask := ⟨(1 <<< 31) - (1 <<< resourceBits)⟩

/-- The types by which an exception switches off blocking or hiding for a whole document. -/
def exempting : TypeMask :=
  ofTypes [.document, .genericblock, .elemhide, .generichide]

/-- The types that describe the context of a request and never select a rule by themselves. -/
def context : TypeMask := ofType .csp

/-- The bits of either mask. -/
def union (first second : TypeMask) : TypeMask :=
  ⟨first.bits ||| second.bits⟩

/-- The bits of both masks. -/
def inter (first second : TypeMask) : TypeMask :=
  ⟨first.bits &&& second.bits⟩

/-- The bits of the first mask that are not in the second. -/
def diff (first second : TypeMask) : TypeMask :=
  ⟨first.bits ^^^ (first.bits &&& second.bits)⟩

/-- Whether two masks share a bit. -/
def overlaps (first second : TypeMask) : Bool :=
  (first.inter second).bits != 0

/-- The mask that is left when an option excludes a type: special bits cannot be excluded. -/
def exclude (mask excluded : TypeMask) : TypeMask :=
  mask.diff (excluded.inter resources)

/-- The content type of a mask with exactly one bit that has a type. -/
def single? (mask : TypeMask) : Option ContentType :=
  ContentType.all.find? fun contentType => ofType contentType = mask

/-- A mask was asked for its name and is not the mask of one content type. -/
structure NotSingle where
  mask : TypeMask
  deriving Repr, DecidableEq

/-- The wording of the failure to name a mask. -/
def NotSingle.message (failure : NotSingle) : Text :=
  match Numeral.write failure.mask.bits with
  | .ok bits => "Not a single content type: ".toList ++ bits
  | .error tooLong => tooLong.message

/-- The option name of the mask of a single content type. -/
def name (mask : TypeMask) : Except NotSingle Text :=
  match mask.single? with
  | some contentType => .ok contentType.name
  | none => .error ⟨mask⟩

end TypeMask

end AdFilter
