import RowBatch.Markup.Token

/-!
The events of a document, and what may come next in it. The expectations form a stack: a token
is taken by the first of them, or is left to those below when the first needs nothing more.
-/

namespace RowBatch
namespace Markup

inductive Event (ρ : Type) where
  | alias (anchor : ρ)
  | scalar (anchor : Option ρ) (tag : Option (List Char)) (text : List Char) (style : ScalarStyle)
  | sequenceStart (anchor : Option ρ) (tag : Option (List Char))
  | sequenceEnd
  | mappingStart (anchor : Option ρ) (tag : Option (List Char))
  | mappingEnd
deriving DecidableEq, Inhabited

namespace Event

variable {ρ σ : Type}

def anchor? : Event ρ → Option ρ
  | .scalar anchor _ _ _ | .sequenceStart anchor _ | .mappingStart anchor _ => anchor
  | .alias _ | .sequenceEnd | .mappingEnd => none

def withAnchor (anchor : Option σ) : Event ρ → Option (Event σ)
  | .alias _ => none
  | .scalar _ tag text style => some (.scalar anchor tag text style)
  | .sequenceStart _ tag => some (.sequenceStart anchor tag)
  | .sequenceEnd => some .sequenceEnd
  | .mappingStart _ tag => some (.mappingStart anchor tag)
  | .mappingEnd => some .mappingEnd

def opens : Event ρ → Bool
  | .sequenceStart _ _ | .mappingStart _ _ => true
  | _ => false

def closes : Event ρ → Bool
  | .sequenceEnd | .mappingEnd => true
  | _ => false

end Event

abbrev NamedEvent := Event (List Char)

/-- The tag handles that are defined, with the leads that they stand for. -/
abbrev Handles := List (List Char × List Char)

namespace Handles

def standard : Handles :=
  [(['!'], ['!']), ("!!".toList, "tag:yaml.org,2002:".toList)]

/-- The whole tag. A suffix without a handle is one already. -/
def resolve (handles : Handles) (handle suffix : List Char) : Option (List Char) :=
  if handle.isEmpty then some suffix else (List.lookup handle handles).map (· ++ suffix)

end Handles

inductive Place where
  | root
  | content
  | blockItem
  | indentlessItem
  | blockKey
  | blockValue
  | flowItem
  | pairKey
  | pairValue
  | flowKey
  | flowValue
deriving DecidableEq

namespace Place

def allowsBlock : Place → Bool
  | .root | .content | .blockItem | .indentlessItem | .blockKey | .blockValue => true
  | .flowItem | .pairKey | .pairValue | .flowKey | .flowValue => false

def allowsIndentless : Place → Bool
  | .blockKey | .blockValue => true
  | _ => false

def allowsEmpty (place : Place) (t : Token) : Bool :=
  match place, t with
  | .content, .versionDirective _ _ | .content, .tagDirective _ _ | .content, .documentStart
  | .content, .documentEnd | .content, .streamEnd => true
  | .blockItem, .blockEntry | .blockItem, .blockEnd => true
  | .indentlessItem, .blockEntry | .indentlessItem, .key | .indentlessItem, .value
  | .indentlessItem, .blockEnd => true
  | .blockKey, .key | .blockKey, .value | .blockKey, .blockEnd => true
  | .blockValue, .key | .blockValue, .value | .blockValue, .blockEnd => true
  | .pairKey, .value | .pairKey, .flowEntry | .pairKey, .flowSequenceEnd => true
  | .pairValue, .flowEntry | .pairValue, .flowSequenceEnd => true
  | .flowKey, .value | .flowKey, .flowEntry | .flowKey, .flowMappingEnd => true
  | .flowValue, .flowEntry | .flowValue, .flowMappingEnd => true
  | _, _ => false

end Place

structure Properties where
  anchor : Option (List Char)
  tag : Option (List Char)
deriving DecidableEq, Inhabited

namespace Properties

def none : Properties := ⟨.none, .none⟩

def isNone (p : Properties) : Bool := p.anchor.isNone && p.tag.isNone

end Properties

inductive Expectation where
  | node (place : Place) (properties : Properties)
  | blockSequence
  | indentlessSequence
  | blockMapping
  | blockMappingValue
  /-- An entry or the end; after an item a comma or the end. -/
  | flowSequence (afterItem : Bool)
  | flowPairValue
  | flowPairEnd
  | flowMapping (afterItem : Bool)
  | flowMappingValue
  | flowMappingNoValue
deriving DecidableEq

/-- What becomes of a token: it is taken and other expectations follow, it is left to the
expectation below, or it can not stand here. -/
inductive Move where
  | shift (following : List Expectation)
  | pass
  | refuse
deriving DecidableEq

abbrev Reaction := List NamedEvent × Move

namespace Expectation

def emptyNode (p : Properties) : NamedEvent := .scalar p.anchor p.tag [] .plain

/-- A lone exclamation mark tags a scalar as one without a tag. -/
def scalarTag (p : Properties) : Option (List Char) :=
  if p.tag = some ['!'] then none else p.tag

/-- The reaction to a token that is no content: the node is empty, if it may be. A pair in brackets
whose key is empty takes the token. -/
def reactEmpty (place : Place) (p : Properties) (t : Token) : Reaction :=
  if !p.isNone then ([emptyNode p], .pass)
  else if place.allowsEmpty t then
    ([emptyNode p], if place = .pairKey then .shift [] else .pass)
  else ([], .refuse)

def reactNode (handles : Handles) (place : Place) (p : Properties) (t : Token) : Reaction :=
  match t with
  | .alias name => if p.isNone then ([.alias name], .shift []) else reactEmpty place p t
  | .anchor name =>
    if p.anchor.isNone then ([], .shift [.node place { p with anchor := some name }])
    else reactEmpty place p t
  | .tag handle suffix =>
    if p.tag.isNone then
      match handles.resolve handle suffix with
      | some tag => ([], .shift [.node place { p with tag := some tag }])
      | none => ([], .refuse)
    else reactEmpty place p t
  | .scalar text style => ([.scalar p.anchor (scalarTag p) text style], .shift [])
  | .flowSequenceStart => ([.sequenceStart p.anchor p.tag], .shift [.flowSequence false])
  | .flowMappingStart => ([.mappingStart p.anchor p.tag], .shift [.flowMapping false])
  | .blockSequenceStart =>
    if place.allowsBlock then ([.sequenceStart p.anchor p.tag], .shift [.blockSequence])
    else reactEmpty place p t
  | .blockMappingStart =>
    if place.allowsBlock then ([.mappingStart p.anchor p.tag], .shift [.blockMapping])
    else reactEmpty place p t
  | .blockEntry =>
    if place.allowsIndentless then
      ([.sequenceStart p.anchor p.tag],
        .shift [.node .indentlessItem .none, .indentlessSequence])
    else reactEmpty place p t
  | _ => reactEmpty place p t

def reactNodeBefore (handles : Handles) (place : Place) (t : Token)
    (following : List Expectation) : Reaction :=
  match reactNode handles place .none t with
  | (events, .shift more) => (events, .shift (more ++ following))
  | reaction => reaction

def react (handles : Handles) (e : Expectation) (t : Token) : Reaction :=
  match e, t with
  | .node place p, t => reactNode handles place p t
  | .blockSequence, .blockEntry => ([], .shift [.node .blockItem .none, .blockSequence])
  | .blockSequence, .blockEnd => ([.sequenceEnd], .shift [])
  | .blockSequence, _ => ([], .refuse)
  | .indentlessSequence, .blockEntry =>
    ([], .shift [.node .indentlessItem .none, .indentlessSequence])
  | .indentlessSequence, _ => ([.sequenceEnd], .pass)
  | .blockMapping, .key =>
    ([], .shift [.node .blockKey .none, .blockMappingValue, .blockMapping])
  | .blockMapping, .blockEnd => ([.mappingEnd], .shift [])
  | .blockMapping, _ => ([], .refuse)
  | .blockMappingValue, .value => ([], .shift [.node .blockValue .none])
  | .blockMappingValue, _ => ([emptyNode .none], .pass)
  | .flowSequence _, .flowSequenceEnd => ([.sequenceEnd], .shift [])
  | .flowSequence true, .flowEntry => ([], .shift [.flowSequence false])
  | .flowSequence true, _ => ([], .refuse)
  | .flowSequence false, .key =>
    ([.mappingStart none none],
      .shift [.node .pairKey .none, .flowPairValue, .flowPairEnd, .flowSequence true])
  | .flowSequence false, t => reactNodeBefore handles .flowItem t [.flowSequence true]
  | .flowPairValue, .value => ([], .shift [.node .pairValue .none])
  | .flowPairValue, _ => ([emptyNode .none], .pass)
  | .flowPairEnd, _ => ([.mappingEnd], .pass)
  | .flowMapping _, .flowMappingEnd => ([.mappingEnd], .shift [])
  | .flowMapping true, .flowEntry => ([], .shift [.flowMapping false])
  | .flowMapping true, _ => ([], .refuse)
  | .flowMapping false, .key =>
    ([], .shift [.node .flowKey .none, .flowMappingValue, .flowMapping true])
  | .flowMapping false, t =>
    reactNodeBefore handles .flowItem t [.flowMappingNoValue, .flowMapping true]
  | .flowMappingValue, .value => ([], .shift [.node .flowValue .none])
  | .flowMappingValue, _ => ([emptyNode .none], .pass)
  | .flowMappingNoValue, _ => ([emptyNode .none], .pass)

end Expectation
end Markup
end RowBatch
