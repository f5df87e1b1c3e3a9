import ServiceStubs.Component
import ServiceStubs.Descriptor
import ServiceStubs.Package
import ServiceStubs.Text
/-!
The text of a generated class. The body has the docstring, the attributes and
the methods, a blank line before each method that does not come first, and
`pass` when there is none of these.
-/

namespace ServiceStubs

namespace Callable

def withBody (signature docstring : String) : String :=
  if docstring.isEmpty then signature ++ " ..."
  else signature ++ "\n" ++ Text.docstringBlock docstring

def methodText (table : PresentationTable) (method : Callable) : String :=
  withBody (method.methodSignature table) method.docstring

def functionText (table : PresentationTable) (function : Callable) : String :=
  withBody (function.functionSignature table) function.docstring

end Callable

structure ClassView where
  name : String
  bases : List String := []
  docstring : String := ""
  attributes : List String := []
  methods : List String := []
deriving Inhabited

namespace ClassView

def ofOutline (table : PresentationTable) (outline : ClassOutline) : ClassView :=
  { name := outline.name
    bases := outline.bases.map (·.name)
    methods := outline.methods.map (·.methodText table) }

def header (view : ClassView) : String :=
  if view.bases.isEmpty then "class " ++ view.name ++ ":"
  else "class " ++ view.name ++ "(" ++ String.intercalate ", " view.bases ++ "):"

def opening (view : ClassView) : List String :=
  (if view.docstring.isEmpty then [] else [Text.docstringBlock view.docstring])
    ++ view.attributes.map ("    " ++ ·)

def methodLines : Bool → List String → List String
  | _, [] => []
  | preceded, method :: rest =>
      (if preceded then ["", Text.indent method] else [Text.indent method])
        ++ methodLines true rest

def body (view : ClassView) : List String :=
  if view.opening.isEmpty && view.methods.isEmpty then ["    pass"]
  else view.opening ++ methodLines (!view.opening.isEmpty) view.methods

def text (view : ClassView) : String :=
  String.intercalate "\n" (view.header :: view.body)

end ClassView

/-!
What each generated module holds: its imports, the names it exports and its
definitions. Definitions follow one another in name order, so one that refers
to itself or to a later one has to quote the reference.
-/

structure ModuleView where
  imports : List String := []
  names : List String := []
  blocks : List String := []
deriving Inhabited

def ExceptionsClass.view (exceptions : ExceptionsClass) : ClassView :=
  let annotation := exceptions.attributeType.render {}
  { ClassView.ofOutline {} exceptions.outline with
    attributes := exceptions.exceptions.map fun name => name ++ ": " ++ annotation }

namespace ModuleView

def importTexts (records : List ImportRecord) : List String :=
  records.map (·.render)

def client (package : Package) : ModuleView :=
  let table := package.presentation
  let client := package.client
  { imports := importTexts (package.imports .client)
    names := client.name :: package.helperFunctions.map (·.name)
    blocks :=
      client.exceptionsClass.view.text
        :: { ClassView.ofOutline table client.outline with
              docstring := client.docstring
              attributes := ["exceptions: " ++ client.exceptionsClass.name] : ClassView }.text
        :: package.helperFunctions.map (·.functionText table) }

def serviceResource (package : Package) : ModuleView :=
  match package.serviceResource with
  | none => {}
  | some resource =>
      let table := package.presentation
      { imports := importTexts (package.imports .serviceResource)
        names := resource.name :: resource.subResources.map (·.name)
        blocks :=
          { ClassView.ofOutline table resource.outline with
            docstring := resource.docstring : ClassView }.text
            :: resource.subResources.map fun sub => (ClassView.ofOutline table sub.outline).text }

def paginators (package : Package) : ModuleView :=
  { imports := importTexts (package.imports .paginator)
    names := package.paginators.map (·.name)
    blocks := package.paginators.map fun paginator =>
      { ClassView.ofOutline package.presentation paginator.outline with
        docstring := "Paginator for `" ++ paginator.operationName ++ "`" : ClassView }.text }

def waiters (package : Package) : ModuleView :=
  { imports := importTexts (package.imports .waiter)
    names := package.waiters.map (·.name)
    blocks := package.waiters.map fun waiter =>
      { ClassView.ofOutline package.presentation waiter.outline with
        docstring := "Waiter for `" ++ waiter.waiterName ++ "`" : ClassView }.text }

/-- How the definition of `descriptor` spells the others: what is not yet
defined is quoted, whatever the package says of it. -/
def definitionTable (table : PresentationTable) (descriptor : Descriptor) : PresentationTable :=
  descriptor.children.foldl
    (fun found child =>
      found.set child <|
        -- Definitions stand in name order, so a name not below is not bound yet.
        if compare child descriptor.name != .lt || table.isForwardRef child then .forwardRef
        else .direct)
    {}

def typeDefs (package : Package) : ModuleView :=
  { imports := importTexts (package.imports .typeDefs)
    names := package.typeDefNames
    blocks := package.typeDefs.map fun descriptor =>
      descriptor.definition (definitionTable package.presentation descriptor) }

def dataclassDefs (package : Package) : ModuleView :=
  { imports := importTexts (package.imports .dataclassDefs)
    names := package.typeDefNames.map dataclassName
    blocks := package.typeDefs.map fun descriptor =>
      descriptor.dataclass (definitionTable package.presentation descriptor) }

def ofPackage (package : Package) : PackageModule → ModuleView
  | .client => client package
  | .serviceResource => serviceResource package
  | .paginator => paginators package
  | .waiter => waiters package
  | .typeDefs => typeDefs package
  | .dataclassDefs => dataclassDefs package

end ModuleView

/-!
The text of every generated file, before formatting. Each file is made from a
template, which is known by a path of its own.
-/

inductive Template
  | setup
  | readme
  | version
  | entryPoint
  | main
  | typedMarker
  | module (module : PackageModule)
deriving DecidableEq, Repr, Inhabited

namespace Template

def all : List Template :=
  [setup, readme, version, entryPoint, main, typedMarker] ++ PackageModule.all.map module

def fileName : Template → String
  | setup => "setup.py"
  | readme => "README.md"
  | version => "version.py"
  | entryPoint => "__init__.pyi"
  | main => "__main__.py"
  | typedMarker => "py.typed"
  | module name => name.stubFileName

def path (template : Template) : String :=
  match template with
  | setup | readme => "service/" ++ template.fileName ++ ".jinja2"
  | _ => "service/service/" ++ template.fileName ++ ".jinja2"

def ofFileName? (name : String) : Option Template :=
  all.find? (·.fileName == name)

def lines (texts : List String) : String :=
  String.intercalate "\n" texts

def setupText (package : Package) : String :=
  lines
    ["\"\"\"",
     "Setup script for `" ++ package.pypiName ++ "`.",
     "\"\"\"",
     "from pathlib import Path",
     "",
     "from setuptools import setup",
     "",
     "LONG_DESCRIPTION = (Path(__file__).parent / \"README.md\").read_text()",
     "",
     "",
     "setup(",
     "    name=\"" ++ package.pypiName ++ "\",",
     "    version=\"" ++ package.version ++ "\",",
     "    packages=[\"" ++ package.name ++ "\"],",
     "    url=\"https://pypi.org/project/" ++ package.pypiName ++ "/\",",
     "    license=\"MIT License\",",
     "    description=\"Type annotations for " ++ package.service.name ++ " service\",",
     "    long_description=LONG_DESCRIPTION,",
     "    long_description_content_type=\"text/markdown\",",
     "    classifiers=[",
     "        \"Typing :: Typed\",",
     "        \"Programming Language :: Python :: 3\",",
     "    ],",
     "    keywords=\"" ++ package.service.name ++ " type-annotations stubs\",",
     "    package_data=\x7b\"" ++ package.name ++ "\": [\"py.typed\", \"*.pyi\"]\x7d,",
     "    python_requires=\">=3.6\",",
     "    install_requires=['typing_extensions; python_version < \"3.8\"'],",
     "    zip_safe=False,",
     ")"]

def readmeText (package : Package) : String :=
  let clientName := package.service.className ++ "Client"
  lines
    ["# " ++ package.pypiName,
     "",
     "Type annotations for the `" ++ package.service.name ++ "` service, version "
       ++ package.version ++ ".",
     "",
     "## Installation",
     "",
     "```bash",
     "python -m pip install " ++ package.pypiName,
     "```",
     "",
     "## Usage",
     "",
     "```python",
     "import boto3",
     "",
     "from " ++ package.name ++ " import " ++ clientName,
     "",
     "client: " ++ clientName ++ " = boto3.client(\"" ++ package.service.name ++ "\")",
     "```",
     "",
     "## Exported names",
     ""]
    ++ String.join (package.exportedNames.map fun name => "\n- `" ++ name ++ "`")

def versionText (package : Package) : String :=
  lines
    ["\"\"\"",
     "Source of truth for the `" ++ package.pypiName ++ "` version.",
     "\"\"\"",
     "__version__ = \"" ++ package.version ++ "\""]

def mainText (package : Package) : String :=
  lines
    ["\"\"\"",
     "Main CLI entrypoint.",
     "\"\"\"",
     "import sys",
     "",
     "",
     "def print_info() -> None:",
     "    \"\"\"",
     "    Print package info to stdout.",
     "    \"\"\"",
     "    print(\"Type annotations for " ++ package.service.name ++ " service\\nVersion: "
       ++ package.version ++ "\")",
     "",
     "",
     "def print_version() -> None:",
     "    \"\"\"",
     "    Print package version to stdout.",
     "    \"\"\"",
     "    print(\"" ++ package.version ++ "\")",
     "",
     "",
     "def main() -> None:",
     "    \"\"\"",
     "    Main CLI entrypoint.",
     "    \"\"\"",
     "    if \"--version\" in sys.argv:",
     "        print_version()",
     "        return",
     "    print_info()",
     "",
     "",
     "if __name__ == \"__main__\":",
     "    main()"]

def opening (package : Package) : PackageModule → List String
  | .client =>
      ["Type annotations for " ++ package.service.name ++ " service client.",
       "",
       "Usage::",
       "",
       "    ```python",
       "    import boto3",
       "",
       "    from " ++ package.service.moduleName ++ " import " ++ package.client.name,
       "",
       "    client: " ++ package.client.name ++ " = boto3.client(\"" ++ package.service.name ++ "\")",
       "    ```"]
  | .serviceResource =>
      ["Type annotations for " ++ package.service.name ++ " service resource.",
       "",
       "Usage::",
       "",
       "    ```python",
       "    import boto3",
       "",
       "    resource = boto3.resource(\"" ++ package.service.name ++ "\")",
       "    ```"]
  | .paginator => ["Type annotations for " ++ package.service.name ++ " service paginators."]
  | .waiter => ["Type annotations for " ++ package.service.name ++ " service waiters."]
  | .typeDefs => ["Type annotations for " ++ package.service.name ++ " service type definitions."]
  | .dataclassDefs =>
      ["Data classes for " ++ package.service.name ++ " service type definitions.",
       "",
       "Every class maps to the type definition of the same shape, with field names",
       "kept through `dataclasses_json` metadata."]

def head (documentation imports : List String) : String :=
  lines (["\"\"\""] ++ documentation ++ ["\"\"\"", "", ""])
    ++ String.join (imports.map (· ++ "\n"))

def exportList (names : List String) : String :=
  "\n__all__ = (" ++ String.join (names.map fun name => "\n    \"" ++ name ++ "\",") ++ "\n)"

def moduleText (package : Package) (module : PackageModule) : String :=
  let view := ModuleView.ofPackage package module
  head (opening package module) view.imports ++ exportList view.names
    ++ String.join (view.blocks.map ("\n\n\n" ++ ·))

def entryPointText (package : Package) : String :=
  head ["Main interface for " ++ package.service.name ++ " service."]
      (ModuleView.importTexts package.exportImports)
    ++ String.join (package.aliases.map fun (short, name) => "\n" ++ short ++ " = " ++ name)
    ++ "\n" ++ exportList package.exportedNames

def render (package : Package) : Template → String
  | setup => setupText package
  | readme => readmeText package
  | version => versionText package
  | entryPoint => entryPointText package
  | main => mainText package
  | typedMarker => "partial"
  | module name => moduleText package name

end Template

end ServiceStubs
