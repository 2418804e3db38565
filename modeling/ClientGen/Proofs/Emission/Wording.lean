import ClientGen.Proofs.Declarative.OperationFile

/-!
# Where the words of a file come from

What stands in a file of source code behind its imports, stretch by stretch: the words that are the same in every file,
the types of the model, the names that a plan makes, and the other texts of the model. The stretches put together are
the file.
-/

namespace ClientGen

/-- A stretch of a file, by where it comes from. -/
inductive Stretch where
  /-- What the generator itself writes. -/
  | own (text : String)
  /-- A type of the model. -/
  | type (text : String)
  /-- A name made by the plan, of what another module declares. -/
  | made (module name : String)
  /-- The name of what the file itself declares. -/
  | declared (name : String)
  /-- Any other text of the model, such as the name of a parameter, a path or a status. -/
  | given (text : String)
  | comment (comment : Comment)
  deriving DecidableEq, Repr

def Stretch.text (style : Comment → String) : Stretch → String
  | .own text => text
  | .type text => text
  | .made _ name => name
  | .declared name => name
  | .given text => text
  | .comment c => style c

section Text

variable (style : Comment → String)

@[simp] theorem Stretch.text_own (text : String) : (own text).text style = text := rfl

@[simp] theorem Stretch.text_type (text : String) : (type text).text style = text := rfl

@[simp] theorem Stretch.text_made (module name : String) : (made module name).text style = name := rfl

@[simp] theorem Stretch.text_declared (name : String) : (declared name).text style = name := rfl

@[simp] theorem Stretch.text_given (text : String) : (given text).text style = text := rfl

@[simp] theorem Stretch.text_comment (c : Comment) : (comment c).text style = style c := rfl

end Text

abbrev Wording := List Stretch

namespace Wording

/-- The text of some stretches, with comments in a style. -/
def write (style : Comment → String) (w : Wording) : String := Text.concat (w.map (Stretch.text style))

def joined (separator : String) : List Wording → Wording
  | [] => []
  | first :: rest => first ++ rest.flatMap fun w => .own separator :: w

/-- Some lines, each with its end. -/
def unlines (lines : List Wording) : Wording := lines.flatMap (· ++ [.own "\n"])

section Write

variable {style : Comment → String}

@[simp] theorem write_nil : write style [] = "" := rfl

@[simp] theorem write_cons (s : Stretch) (w : Wording) : write style (s :: w) = s.text style ++ write style w := rfl

@[simp] theorem write_append (w w' : Wording) : write style (w ++ w') = write style w ++ write style w' := by
  simp [write]

theorem write_flatMap {α : Type} (f : α → Wording) (l : List α) :
    write style (l.flatMap f) = Text.concat (l.map fun a => write style (f a)) := by
  simp only [write, List.map_flatMap, Text.concat_flatMap]

theorem write_joined (separator : String) (ws : List Wording) :
    write style (joined separator ws) = Text.joined separator (ws.map (write style)) := by
  cases ws with
  | nil => rfl
  | cons first rest =>
    rw [List.map_cons, Text.joined_cons, joined, write_append, write_flatMap, List.map_map]
    rfl

theorem write_unlines (lines : List Wording) :
    write style (unlines lines) = Text.unlines (lines.map (write style)) := by
  rw [unlines, write_flatMap, Text.unlines, List.map_map]
  refine congrArg Text.concat (List.map_congr_left fun w _ => ?_)
  simp

end Write

/-- The comment for a description, if there is one. -/
def described (margin : String) (description : Option String) : Wording :=
  description.toList.map fun text => .comment (.description margin text)

/-- The imports of a file, then an empty line. -/
def importText (i : Imports) : String := Text.unlines (i.statements ++ [""])

@[simp] theorem write_described {style : Comment → String} (margin : String) (description : Option String) :
    write style (described margin description) = Outline.write style (Outline.described margin description) := by
  cases description <;> rfl

/-! ## Parameters and types -/

section Parameters

/-- The type of a parameter; that of the bag of options is made by the plan and declared in a module of options. -/
def typeOf (module : String) (p : Plan.Parameter) : Stretch :=
  if p.isOptions then .made module p.type else .type p.type

def signature (module : String) (p : Plan.Parameter) : Wording :=
  [.given p.name, .own (if p.optional then "?: " else ": "), typeOf module p]

def declaration (module : String) (p : Plan.Parameter) : Wording :=
  match p.default? with
  | some value => [.given p.name, .own ": ", typeOf module p, .own " = ", .own value]
  | none => signature module p

def signatures (module : String) (ps : List Plan.Parameter) : Wording := joined ", " (ps.map (signature module))

def declarations (module : String) (ps : List Plan.Parameter) : Wording := joined ", " (ps.map (declaration module))

/-- The arguments of a call behind a first one. -/
def furtherArguments (names : List String) : Wording := names.flatMap fun name => [.own ", ", .given name]

def returnType (op : Plan.Operation) : Wording :=
  match op.kind with
  | .longRunning =>
    [.own "PollerLike<OperationState<", .type op.resultType, .own ">, ", .type op.resultType, .own ">"]
  | .paging => [.own "PagedAsyncIterableIterator<", .type op.itemType, .own ">"]
  | .plain => [.own "Promise<", .type op.responseType, .own ">"]

variable {style : Comment → String}

@[simp] theorem text_typeOf (module : String) (p : Plan.Parameter) : (typeOf module p).text style = p.type := by
  unfold typeOf
  split <;> rfl

theorem write_signature (module : String) (p : Plan.Parameter) : write style (signature module p) = p.signature := by
  unfold signature Plan.Parameter.signature
  cases p.optional <;> simp [String.append_assoc]

theorem write_declaration (module : String) (p : Plan.Parameter) :
    write style (declaration module p) = p.declaration := by
  unfold declaration Plan.Parameter.declaration
  cases p.default? with
  | none => exact write_signature module p
  | some value => simp [String.append_assoc]

@[simp] theorem write_signatures (module : String) (ps : List Plan.Parameter) :
    write style (signatures module ps) = Text.joined ", " (ps.map Plan.Parameter.signature) := by
  simp only [signatures, write_joined, List.map_map, Function.comp_def, write_signature]

@[simp] theorem write_declarations (module : String) (ps : List Plan.Parameter) :
    write style (declarations module ps) = Text.joined ", " (ps.map Plan.Parameter.declaration) := by
  simp only [declarations, write_joined, List.map_map, Function.comp_def, write_declaration]

@[simp] theorem write_furtherArguments (names : List String) :
    write style (furtherArguments names) = Text.concat (names.map (", " ++ ·)) := by
  rw [furtherArguments, write_flatMap]
  simp

@[simp] theorem write_returnType (op : Plan.Operation) : write style (returnType op) = op.returnType := by
  unfold returnType Plan.Operation.returnType
  cases op.kind <;> simp [String.append_assoc]

end Parameters

/-! ## The file of an operation -/

section OperationFile

variable (op : Plan.Operation)

def declaredParameters (contextType : String) : Wording :=
  [.own "context: ", .made Plan.httpRuntime contextType, .own ", "] ++
    declarations Plan.FromOperation.options op.parameters

def namedArguments (members : List (String × Plan.Parameter)) : Wording :=
  joined ", " (members.map fun (name, p) => [.given (Json.quoted name), .own ": ", .given p.name])

def queryLine : List Wording :=
  if (Baseline.queryMembers op).isEmpty then []
  else [[.own "    queryParameters: \x7b "] ++ namedArguments (Baseline.queryMembers op) ++ [.own " \x7d,"]]

def headersLine : List Wording :=
  if (Baseline.headerMembers op).isEmpty then []
  else [[.own "    headers: \x7b "] ++ namedArguments (Baseline.headerMembers op) ++ [.own " \x7d,"]]

/-- The line for the body of the request as a tree has it. -/
def bodyLine : List Wording :=
  match op.bodyParameter? with
  | some p => [[.own "    body: ", .given p.name, .own ","]]
  | none => []

/-- The line for the body as a template writes it, which leaves out a parameter without a name. -/
def namedBodyLine : List Wording :=
  match op.bodyParameter? with
  | some p => if p.name = "" then [] else [[.own "    body: ", .given p.name, .own ","]]
  | none => []

section Body

variable (body : List Wording)

def sendBody : List Wording :=
  (if op.removesApiVersionPolicy then
    [[.own "  context.pipeline.removePolicy(\x7b name: \"ClientApiVersionPolicy\" \x7d);"]] else []) ++
  [[.own "  return context.path(", .given (Json.quoted op.path)] ++
     furtherArguments ((op.parameters.filter fun p => p.slot == .path).map Plan.Parameter.name) ++
     [.own ").", .given op.method.verb, .own "(\x7b"],
   [.own "    ...operationOptionsToRequestParameters(options),"]] ++
  queryLine op ++ headersLine op ++ body ++ [[.own "  \x7d);"]]

def sendLines (contextType : String) : List Wording :=
  [[.own "export function ", .declared op.sendName, .own "("] ++ declaredParameters op contextType ++
    [.own "): StreamableMethod \x7b"]] ++ sendBody op body ++ [[.own "\x7d"]]

end Body

def deserializeLines : List Wording :=
  [[.own "export async function ", .declared op.deserializeName, .own "(result: PathUncheckedResponse): Promise<",
     .type op.resultType, .own "> \x7b"],
   [.own "  const expectedStatuses = ", .given (Json.quotedList op.expectedStatuses), .own ";"],
   [.own "  if (!expectedStatuses.includes(result.status)) \x7b"],
   [.own "    throw createRestError(result);"],
   [.own "  \x7d"],
   [],
   [.own "  return result.body", .given (Baseline.resultAccessor op), .own ";"],
   [.own "\x7d"]]

def sendCall : Wording :=
  [.declared op.sendName, .own "(context"] ++ furtherArguments op.argumentNames ++ [.own ")"]

def pagingSettings (p : Plan.Paging) : Wording :=
  match p.nextLinkField with
  | some next =>
    [.own "\x7b itemName: ", .given (Json.quoted p.itemField), .own ", nextLinkName: ", .given (Json.quoted next),
      .own " \x7d"]
  | none => [.own "\x7b itemName: ", .given (Json.quoted p.itemField), .own " \x7d"]

def callBody : List Wording :=
  match op.kind with
  | .longRunning =>
    [[.own "  return getLongRunningPoller(context, ", .declared op.deserializeName, .own ", ",
       .given (Json.quotedList op.expectedStatuses), .own ", \x7b"],
     [.own "    updateIntervalInMs: options?.updateIntervalInMs,"],
     [.own "    abortSignal: options?.abortSignal,"],
     [.own "    getInitialResponse: () => "] ++ sendCall op ++ [.own ","],
     [.own "  \x7d) as "] ++ returnType op ++ [.own ";"]]
  | .paging =>
    [[.own "  return buildPagedAsyncIterator("],
     [.own "    context,"],
     [.own "    () => "] ++ sendCall op ++ [.own ","],
     [.own "    ", .declared op.deserializeName, .own ","],
     [.own "    ", .given (Json.quotedList op.expectedStatuses), .own ","],
     [.own "    "] ++ op.paging.toList.flatMap pagingSettings ++ [.own ","],
     [.own "  );"]]
  | .plain =>
    [[.own "  const result = await "] ++ sendCall op ++ [.own ";"],
     [.own "  return ", .declared op.deserializeName, .own "(result);"]]

def callLines (contextType : String) : List Wording :=
  [[.own (Baseline.callOpening op), .declared op.name, .own "("] ++ declaredParameters op contextType ++
    [.own "): "] ++ returnType op ++ [.own " \x7b"]] ++ callBody op ++ [[.own "\x7d"]]

/-- The file of an operation, given the line for the body of its request. -/
def ofOperationFile (body : List Wording) (f : Plan.OperationFile) : Wording :=
  unlines (sendLines f.operation body f.contextType ++ [[]] ++ deserializeLines f.operation ++ [[]]) ++
    described "" f.operation.description ++ unlines (callLines f.operation f.contextType)

variable {style : Comment → String} {op}

@[simp] theorem write_declaredParameters (contextType : String) :
    write style (declaredParameters op contextType) = Baseline.declaredParameters op contextType := by
  simp [declaredParameters, Baseline.declaredParameters, Plan.Operation.declaration, String.append_assoc]

@[simp] theorem write_namedArguments (members : List (String × Plan.Parameter)) :
    write style (namedArguments members) = Baseline.namedArguments members := by
  simp [namedArguments, Baseline.namedArguments, write_joined, Function.comp_def, String.append_assoc]

@[simp] theorem map_write_queryLine :
    (queryLine op).map (write style) = Baseline.membersLine "queryParameters" (Baseline.queryMembers op) := by
  unfold queryLine Baseline.membersLine
  split <;> simp [← String.toList_inj]

@[simp] theorem map_write_headersLine :
    (headersLine op).map (write style) = Baseline.membersLine "headers" (Baseline.headerMembers op) := by
  unfold headersLine Baseline.membersLine
  split <;> simp [← String.toList_inj]

theorem map_write_bodyLine : (bodyLine op).map (write style) = Declarative.bodyTexts op := by
  unfold bodyLine Declarative.bodyTexts
  cases op.bodyParameter? <;> simp [String.append_assoc]

theorem map_write_namedBodyLine : (namedBodyLine op).map (write style) = Baseline.bodyLine op := by
  unfold namedBodyLine Baseline.bodyLine
  cases op.bodyParameter? with
  | none => rfl
  | some p =>
    dsimp only
    split <;> simp [String.append_assoc]

section Body

variable (body : List Wording)

theorem map_write_sendBody :
    (sendBody op body).map (write style) = Outline.sendBodyWith (body.map (write style)) op := by
  unfold sendBody Outline.sendBodyWith
  cases op.removesApiVersionPolicy <;>
    simp [Baseline.pathArguments, Function.comp_def, String.append_assoc]

theorem map_write_sendLines (contextType : String) : (sendLines op body contextType).map (write style) =
    Outline.sendLinesWith (body.map (write style)) op contextType := by
  simp [sendLines, Outline.sendLinesWith, map_write_sendBody, String.append_assoc]

end Body

theorem map_write_deserializeLines : (deserializeLines op).map (write style) = Baseline.deserializeLines op := by
  simp [deserializeLines, Baseline.deserializeLines, Baseline.deserializeBody, Plan.Operation.deserializeType,
    ← String.toList_inj]

@[simp] theorem write_sendCall : write style (sendCall op) = op.sendName ++ "(" ++ Baseline.arguments op ++ ")" := by
  simp [sendCall, Baseline.arguments, Text.joined_cons, ← String.toList_inj]

@[simp] theorem write_pagingSettings (p : Plan.Paging) :
    write style (pagingSettings p) = Baseline.pagingSettings p := by
  unfold pagingSettings Baseline.pagingSettings
  cases p.nextLinkField <;> simp [String.append_assoc]

theorem map_write_callBody : (callBody op).map (write style) = Baseline.callBody op := by
  unfold callBody Baseline.callBody
  cases op.kind with
  | plain => simp [String.append_assoc]
  | longRunning => simp [String.append_assoc]
  | paging => cases op.paging <;> simp [String.append_assoc]

theorem map_write_callLines (contextType : String) :
    (callLines op contextType).map (write style) = Baseline.callLines op contextType := by
  simp [callLines, Baseline.callLines, map_write_callBody, String.append_assoc]

theorem write_ofOperationFile (body : List Wording) (f : Plan.OperationFile) :
    Outline.write style (Outline.ofOperationFileWith (body.map (write style)) f) =
      importText f.imports ++ write style (ofOperationFile body f) := by
  simp [Outline.ofOperationFileWith, ofOperationFile, importText, write_unlines, map_write_sendLines,
    map_write_deserializeLines, map_write_callLines, String.append_assoc]

end OperationFile

/-! ## The client class -/

section ClientClass

variable (op : Plan.Operation) (c : Plan.ClientClass)

def classHead : List Wording :=
  [[.own "export class ", .declared c.names.className, .own " \x7b"],
   [.own "  private _client: ", .made Plan.FromSource.apiIndex c.names.contextType, .own ";"],
   [.own "  public readonly pipeline: Pipeline;"],
   [],
   [.own "  constructor(endpointParam: string"] ++
     c.clientParameters.flatMap (fun p => .own ", " :: signature Plan.FromSource.options p) ++
     [.own ", options: ", .made Plan.FromSource.apiIndex c.names.optionalParamsType, .own " = \x7b\x7d) \x7b"],
   [.own "    this._client = ", .made Plan.FromSource.apiIndex c.names.factoryName, .own "(endpointParam"] ++
     furtherArguments (c.clientParameters.map Plan.Parameter.name) ++ [.own ", options);"],
   [.own "    this.pipeline = this._client.pipeline;"],
   [.own "  \x7d"]]

def methodCode : List Wording :=
  [[.own "  ", .given op.name, .own "("] ++ declarations Plan.FromSource.options op.parameters ++ [.own "): "] ++
     returnType op ++ [.own " \x7b"],
   [.own "    return ", .made (Plan.FromSource.operation op.name) op.name, .own "(this._client"] ++
     furtherArguments op.argumentNames ++ [.own ");"],
   [.own "  \x7d"]]

def ofMethod : Wording := unlines [[]] ++ described "  " op.description ++ unlines (methodCode op)

def ofClientClass : Wording :=
  [.comment (.remark "" (Baseline.classRemark c))] ++ unlines (classHead c) ++ c.operations.flatMap ofMethod ++
    unlines [[.own "\x7d"]]

variable {style : Comment → String} {op c}

theorem map_write_classHead : (classHead c).map (write style) = Baseline.classHead c := by
  simp [classHead, Baseline.classHead, Baseline.constructorParameters, Baseline.constructorArguments,
    write_flatMap, write_signature, Text.joined_cons, Function.comp_def, ← String.toList_inj]

theorem map_write_methodCode : (methodCode op).map (write style) = Baseline.methodCode op := by
  simp [methodCode, Baseline.methodCode, Plan.Operation.declaration, String.append_assoc]

theorem write_ofMethod : Outline.write style (Outline.ofMethod op) = write style (ofMethod op) := by
  simp [Outline.ofMethod, ofMethod, write_unlines, map_write_methodCode]

theorem write_ofClientClass :
    Outline.write style (Outline.ofClientClass c) = importText c.imports ++ write style (ofClientClass c) := by
  simp [Outline.ofClientClass, ofClientClass, importText, write_unlines, map_write_classHead, Piece.text,
    Outline.write_flatMap, write_flatMap, write_ofMethod, String.append_assoc]

end ClientClass

/-! ## The client definitions -/

section ClientDefinitions

variable (r : Plan.Route) (op : Plan.Operation) (g : Plan.Group) (d : Plan.ClientDefinitions)

def routeType : Wording :=
  [.own "StreamableMethod<"] ++
    (if r.responseTypes.isEmpty then [.own "unknown"] else joined " | " (r.responseTypes.map fun t => [.type t])) ++
    [.own ">"]

def ofRoute : Wording :=
  [.comment (.remark "  " (Baseline.routeRemark r))] ++
    unlines [[.own "  (path: ", .given (Json.quoted r.path)] ++
      r.parameters.flatMap (fun p => [.own ", ", .given p.name, .own ": ", .type p.type]) ++ [.own "): "] ++
      routeType r ++ [.own ";"]]

def ofGroupMember : Wording :=
  described "  " op.description ++
    unlines [[.own "  ", .given op.name, .own "("] ++ signatures Plan.FromSource.options op.parameters ++
      [.own "): "] ++ returnType op ++ [.own ";"]]

def ofGroup : Wording :=
  unlines [[], [.own "export interface ", .declared g.interfaceName, .own " \x7b"]] ++
    g.operations.flatMap ofGroupMember ++ unlines [[.own "\x7d"]]

def shortcut : Wording :=
  match g.property with
  | some property => [.own "\x7b ", .given property, .own ": ", .declared g.interfaceName, .own " \x7d"]
  | none => [.declared g.interfaceName]

def clientType : Wording :=
  [.own "Client & \x7b path: ", .declared "Routes", .own " \x7d"] ++
    if d.includeShortcuts then d.groups.flatMap fun g => .own " & " :: shortcut g else []

def ofClientDefinitions : Wording :=
  unlines [[.own "export interface ", .declared "Routes", .own " \x7b"]] ++ d.routes.flatMap ofRoute ++
    unlines [[.own "\x7d"]] ++ d.groups.flatMap ofGroup ++
    unlines [[], [.own "export type ", .declared d.names.contextType, .own " = "] ++ clientType d ++ [.own ";"]]

variable {style : Comment → String} {r op g d}

@[simp] theorem write_routeType : write style (routeType r) = r.returnType := by
  unfold routeType Plan.Route.returnType
  split <;> simp [write_joined, Function.comp_def, String.append_assoc]

theorem write_ofRoute : Outline.write style (Outline.ofRoute r) = write style (ofRoute r) := by
  simp [Outline.ofRoute, ofRoute, Piece.text, write_unlines, Baseline.routeCode, Baseline.routeParameters,
    Text.joined_cons, write_flatMap, Function.comp_def, String.append_assoc, ← String.toList_inj]

theorem write_ofGroup : Outline.write style (Outline.ofGroup g) = write style (ofGroup g) := by
  have hmember : ∀ op, Outline.write style (Outline.ofGroupMember op) = write style (ofGroupMember op) := by
    intro op
    simp [Outline.ofGroupMember, ofGroupMember, write_unlines, Baseline.groupMemberCode, Plan.Operation.signature,
      String.append_assoc]
  simp [Outline.ofGroup, ofGroup, write_unlines, Outline.write_flatMap, write_flatMap, hmember, String.append_assoc]

@[simp] theorem write_shortcut : write style (shortcut g) = g.shortcut := by
  unfold shortcut Plan.Group.shortcut
  cases g.property <;> simp [String.append_assoc]

@[simp] theorem write_clientType : write style (clientType d) = Baseline.clientType d := by
  unfold clientType Baseline.clientType Plan.ClientDefinitions.shortcuts
  split <;> simp [Text.joined_cons, write_flatMap, Function.comp_def, ← String.toList_inj]

theorem write_ofClientDefinitions : Outline.write style (Outline.ofClientDefinitions d) =
    importText d.imports ++ write style (ofClientDefinitions d) := by
  simp [Outline.ofClientDefinitions, ofClientDefinitions, importText, write_unlines, Outline.write_flatMap,
    write_flatMap, write_ofRoute, write_ofGroup, String.append_assoc, ← String.toList_inj]

end ClientDefinitions

end Wording

/-- The imports of a part of source code. -/
def Plan.Part.imports : Plan.Part → Imports
  | .packageJson _ => .empty
  | .clientDefinitions d => d.imports
  | .clientClass c => c.imports
  | .operationFile f => f.imports

namespace Wording

/-- What stands in a part of source code behind its imports, given how the line for the body of a request is written. -/
def ofPart (body : Plan.Operation → List Wording) : Plan.Part → Wording
  | .packageJson m => [.given (Baseline.manifest m)]
  | .clientDefinitions d => ofClientDefinitions d
  | .clientClass c => ofClientClass c
  | .operationFile f => ofOperationFile (body f.operation) f

/-- The outline of a part of source code is its imports and its wording. -/
theorem write_ofPart {m : Service.Model} {ops : List Plan.Operation} {part : Plan.Part}
    (hpart : part ∈ Plan.sourceParts m ops) (body : Plan.Operation → List Wording) (style : Comment → String) :
    Outline.write style (Outline.ofPartWith (fun op => (body op).map (write style)) part) =
      importText part.imports ++ write style (ofPart body part) := by
  rcases Plan.mem_sourceParts_iff.1 hpart with rfl | rfl | ⟨op, _, rfl⟩
  · exact write_ofClientDefinitions
  · exact write_ofClientClass
  · exact write_ofOperationFile _ _

end Wording

end ClientGen
