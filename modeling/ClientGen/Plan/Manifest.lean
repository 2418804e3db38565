import ClientGen.Service.Model
import ClientGen.Text.Basic

/-!
# The package manifest

What the manifest of a generated package says: its identity, the libraries it needs, its scripts, and a few members
more for packages of the `@azure` scope.
-/

namespace ClientGen.Plan

structure AzureDetails where
  sdkType : String
  repository : String
  bugsUrl : String
  deriving DecidableEq, Repr

structure Manifest where
  path : String
  name : String
  version : String
  description : String
  nodeEngine : String
  moduleKind : Service.ModuleKind
  dependencies : List (String × String)
  devDependencies : List (String × String)
  scripts : List (String × String)
  azure : Option AzureDetails
  deriving DecidableEq, Repr

def defaultVersion : String := "1.0.0-beta.1"

def nodeEngine : String := ">=20.0.0"

def azureDependencies : List (String × String) :=
  [("@azure-rest/core-client", "^2.3.1"), ("@azure/core-auth", "^1.9.0"),
   ("@azure/core-rest-pipeline", "^1.20.0"), ("@azure/core-util", "^1.12.0"), ("@azure/logger", "^1.2.0")]

def plainDependencies : List (String × String) := [("@typespec/ts-http-runtime", "0.1.0")]

def longRunningDependencies : List (String × String) :=
  [("@azure/core-lro", "^3.1.0"), ("@azure/abort-controller", "^2.1.2")]

def dependencies (isAzure hasLongRunning : Bool) : List (String × String) :=
  [("tslib", "^2.6.2")] ++ (if isAzure then azureDependencies else plainDependencies) ++
    (if hasLongRunning then longRunningDependencies else [])

def devDependencies (withTests : Bool) : List (String × String) :=
  [("@types/node", "^20.0.0"), ("eslint", "^9.9.0"), ("typescript", "~5.8.2")] ++
    (if withTests then
      [("@vitest/browser", "^3.0.9"), ("@vitest/coverage-istanbul", "^3.0.9"), ("vitest", "^3.0.9"),
       ("playwright", "^1.52.0")]
    else [])

def buildScript : Service.ModuleKind → String
  | .esm => "npm run clean && tshy && npm run extract-api"
  | .cjs => "npm run clean && tsc && npm run extract-api"

def scripts (kind : Service.ModuleKind) (withTests : Bool) : List (String × String) :=
  [("clean", "rimraf --glob dist dist-browser dist-esm test-dist temp types *.tgz *.log"),
   ("extract-api", "rimraf review && mkdirp ./review && api-extractor run --local"),
   ("pack", "npm pack 2>&1"),
   ("lint", "eslint package.json api-extractor.json src"),
   ("lint:fix", "eslint package.json api-extractor.json src --fix --fix-type [problem,suggestion]"),
   ("build", buildScript kind)] ++
    (if withTests then [("test", "vitest run")] else [])

def azureDetails : AzureDetails where
  sdkType := "client"
  repository := "github:Azure/azure-sdk-for-js"
  bugsUrl := "https://github.com/Azure/azure-sdk-for-js/issues"

/-- The name of a package: the one that the model gives, else the client's name in small letters. -/
def packageName (m : Service.Model) : String :=
  match (m.options.package.bind Service.PackageDetails.name).filter fun n => !Text.isBlankText n with
  | some name => name
  | none => Text.kebab m.clientName

def manifest (m : Service.Model) : Manifest :=
  let name := packageName m
  let isAzure := Text.startsWith name "@azure"
  { path := "package.json"
    name := name
    version := (m.options.package.bind Service.PackageDetails.version).getD defaultVersion
    description := (m.options.package.bind Service.PackageDetails.description).getD
      ("A generated SDK for " ++ m.clientName ++ ".")
    nodeEngine := nodeEngine
    moduleKind := m.options.moduleKind
    dependencies := dependencies isAzure m.hasLongRunning
    devDependencies := devDependencies m.options.generateTest
    scripts := scripts m.options.moduleKind m.options.generateTest
    azure := if isAzure then some azureDetails else none }

end ClientGen.Plan
