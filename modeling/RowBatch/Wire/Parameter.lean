/-!
The types that a server gives to the parameters of a statement, and the encodings they ask for.
-/

namespace RowBatch
namespace Wire

/-- A type that every server has, or one of a schema. Only the first kind is known by its name. -/
inductive ParameterType where
  | builtin (name : String)
  | custom (schema name : String)
deriving DecidableEq

/-- The binary encodings that values can be written in. Some texts follow a leading byte. -/
inductive Encoding where
  | int2
  | int4
  | int8
  | float4
  | float8
  | numeric
  | bool
  | bytea
  | text (lead : List UInt8)
deriving DecidableEq

namespace ParameterType

def name : ParameterType → String
  | .builtin name => name
  | .custom _ name => name

/-- The printed name; the schemas that are searched without being named are left out. -/
def text : ParameterType → String
  | .builtin name => name
  | .custom schema name =>
    if schema = "public" ∨ schema = "pg_catalog" then name else schema ++ "." ++ name

/-- Extension types whose text form is known by the name of the type alone. -/
def extension? (name : String) : Option Encoding :=
  match name with
  | "citext" => some (.text [])
  | "ltree" | "lquery" | "ltxtquery" => some (.text [1])
  | _ => none

def encoding? : ParameterType → Option Encoding
  | .custom _ name => extension? name
  | .builtin name =>
    match name with
    | "int2" => some .int2
    | "int4" => some .int4
    | "int8" => some .int8
    | "float4" => some .float4
    | "float8" => some .float8
    | "numeric" => some .numeric
    | "bool" => some .bool
    | "bytea" => some .bytea
    | "text" | "varchar" | "bpchar" | "name" | "unknown" => some (.text [])
    | other => extension? other

def IsTextual (type : ParameterType) : Prop :=
  type ∈ [.builtin "text", .builtin "varchar", .builtin "bpchar", .builtin "name",
      .builtin "unknown"] ∨
    type.name ∈ ["citext", "ltree", "lquery", "ltxtquery"]

instance (type : ParameterType) : Decidable type.IsTextual := inferInstanceAs (Decidable (_ ∨ _))

/-- What stands in front of a text: some types begin with the number of their version. -/
def lead (type : ParameterType) : List UInt8 :=
  if type.name ∈ ["ltree", "lquery", "ltxtquery"] then [1] else []

/-- The types that alone have their encoding, by name. -/
inductive Owns : String → Encoding → Prop
  | int2 : Owns "int2" .int2
  | int4 : Owns "int4" .int4
  | int8 : Owns "int8" .int8
  | float4 : Owns "float4" .float4
  | float8 : Owns "float8" .float8
  | numeric : Owns "numeric" .numeric
  | bool : Owns "bool" .bool
  | bytea : Owns "bytea" .bytea

theorem extension?_cases (type : ParameterType) :
    (type.name ∈ ["citext", "ltree", "lquery", "ltxtquery"] ∧
        extension? type.name = some (.text type.lead)) ∨
      (type.name ∉ ["citext", "ltree", "lquery", "ltxtquery"] ∧ extension? type.name = none) := by
  unfold extension? lead
  split <;> simp_all

theorem encoding?_cases (type : ParameterType) :
    (∃ name e, Owns name e ∧ type = .builtin name ∧ type.encoding? = some e) ∨
      (type.IsTextual ∧ type.encoding? = some (.text type.lead)) ∨
      (¬type.IsTextual ∧ type.encoding? = none) := by
  cases type with
  | custom schema name =>
    rcases extension?_cases (.custom schema name) with ⟨hname, h⟩ | ⟨hname, h⟩
    · exact .inr (.inl ⟨.inr hname, h⟩)
    · exact .inr (.inr ⟨by simpa [IsTextual] using hname, h⟩)
  | builtin name =>
    simp only [encoding?]
    split
    case h_1 => exact .inl ⟨_, _, .int2, rfl, rfl⟩
    case h_2 => exact .inl ⟨_, _, .int4, rfl, rfl⟩
    case h_3 => exact .inl ⟨_, _, .int8, rfl, rfl⟩
    case h_4 => exact .inl ⟨_, _, .float4, rfl, rfl⟩
    case h_5 => exact .inl ⟨_, _, .float8, rfl, rfl⟩
    case h_6 => exact .inl ⟨_, _, .numeric, rfl, rfl⟩
    case h_7 => exact .inl ⟨_, _, .bool, rfl, rfl⟩
    case h_8 => exact .inl ⟨_, _, .bytea, rfl, rfl⟩
    case h_14 =>
      rcases extension?_cases (.builtin name) with ⟨hname, h⟩ | ⟨hname, h⟩
      · exact .inr (.inl ⟨.inr hname, h⟩)
      · refine .inr (.inr ⟨?_, h⟩)
        rintro (hbuiltin | hextension)
        · simp_all
        · exact hname hextension
    all_goals exact .inr (.inl ⟨by decide, rfl⟩)

theorem Owns.not_isTextual {name : String} {e : Encoding} (h : Owns name e) :
    ¬(builtin name).IsTextual := by
  cases h <;> decide

theorem encoding?_of_isTextual {type : ParameterType} (h : type.IsTextual) :
    type.encoding? = some (.text type.lead) := by
  rcases encoding?_cases type with ⟨name, e, howns, rfl, -⟩ | ⟨-, htext⟩ | ⟨hother, -⟩
  · exact absurd h howns.not_isTextual
  · exact htext
  · exact absurd h hother

theorem Owns.encoding?_eq_iff {name : String} {e : Encoding} (h : Owns name e)
    {type : ParameterType} : type.encoding? = some e ↔ type = .builtin name := by
  constructor
  · intro hencoding
    rcases encoding?_cases type with ⟨name', e', howns, rfl, hown⟩ | ⟨-, htext⟩ | ⟨-, hnone⟩
    · obtain rfl : e' = e := Option.some.inj (hown.symm.trans hencoding)
      cases howns <;> cases h <;> rfl
    · obtain rfl : .text type.lead = e := Option.some.inj (htext.symm.trans hencoding)
      exact nomatch h
    · rw [hnone] at hencoding
      exact nomatch hencoding
  · rintro rfl
    cases h <;> rfl

end ParameterType
end Wire
end RowBatch
