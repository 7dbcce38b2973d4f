import RefSite.Text.Basic

namespace RefSite

inductive Phrase
  | description
  | namespaceDescription
  | signature
  | constructors
  | functions
  | properties
  | constants
  | noConstructors
  | noFunctions
  | noProperties
  | noConstants
  | parameters
  | typeParameters
  | returns
  | value
  | exceptions
  | remarks
  | examples
  | name
  | exception
  | sourceKind
  | source
  | nugetPackage
  | devopsPackage
  | sourceCode
  deriving DecidableEq, Repr

namespace Phrase

/-- The phrases in the order in which settings may list them. -/
def all : List Phrase :=
  [.description, .namespaceDescription, .signature, .constructors, .functions, .properties,
   .constants, .noConstructors, .noFunctions, .noProperties, .noConstants, .parameters,
   .typeParameters, .returns, .value, .exceptions, .remarks, .examples, .name, .exception,
   .sourceKind, .source, .nugetPackage, .devopsPackage, .sourceCode]

def key : Phrase → Text
  | .description => "description"
  | .namespaceDescription => "namespace_description"
  | .signature => "class"
  | .constructors => "constructors"
  | .functions => "functions"
  | .properties => "properties"
  | .constants => "constants"
  | .noConstructors => "no_constructors"
  | .noFunctions => "no_functions"
  | .noProperties => "no_properties"
  | .noConstants => "no_constants"
  | .parameters => "parameters"
  | .typeParameters => "type_parameters"
  | .returns => "returns"
  | .value => "value"
  | .exceptions => "exceptions"
  | .remarks => "remarks"
  | .examples => "example"
  | .name => "name"
  | .exception => "exception"
  | .sourceKind => "source_kind"
  | .source => "source"
  | .nugetPackage => "nuget_package"
  | .devopsPackage => "devops_package"
  | .sourceCode => "source_code"

def spanish : Phrase → Text
  | .description => "Descripción"
  | .namespaceDescription => "Descripción del namespace"
  | .signature => "Clase"
  | .constructors => "Constructores"
  | .functions => "Funciones"
  | .properties => "Propiedades"
  | .constants => "Constantes"
  | .noConstructors => "no existen constructores"
  | .noFunctions => "no existen funciones"
  | .noProperties => "no existen propiedades"
  | .noConstants => "no existen campos"
  | .parameters => "Parámetros"
  | .typeParameters => "Parámetros de tipo"
  | .returns => "Retorna"
  | .value => "Valor"
  | .exceptions => "Excepciones"
  | .remarks => "Observaciones"
  | .examples => "Ejemplo"
  | .name => "Nombre"
  | .exception => "Excepción"
  | .sourceKind => "Tipo"
  | .source => "Fuente"
  | .nugetPackage => "Paquete en Nuget.org"
  | .devopsPackage => "Paquete en devops"
  | .sourceCode => "Código fuente"

end Phrase

abbrev Wording := Phrase → Text

end RefSite
