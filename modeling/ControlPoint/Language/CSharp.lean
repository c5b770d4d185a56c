import ControlPoint.Template.Basic
import ControlPoint.Template.Kind

/-!
The templates of C#. They are written against the object model of the control point, whose types are
named `UPnPService`, `UPnPDevice` and `IUPnPServiceCallback`.
-/

namespace ControlPoint.Language

open Template Template.Piece Template.Part

/-- The templates of C#. -/
def csharpTemplate : Kind → Template
  | .constant =>
    [slot "scope", " const string ", slot "name", " = ", slot "literal", ";",
      choice "comment" [" // ", slot "comment"] []]
  | .region => ofLines [
      ["#region ", slot "name"],
      [],
      [slot "body"],
      [],
      ["#endregion"]]
  | .docComment => ofLines [
      ["/// <summary>"],
      [marked "summary" "/// "],
      ["/// </summary>",
        choice "remarks" ["\n/// <remarks>\n", marked "remarks" "/// ", "\n/// </remarks>"] []]]
  | .enumeration => ofLines [
      [slot "doc"],
      [slot "scope", " enum ", slot "name"],
      ["\x7b"],
      [indented "members" 1],
      ["\x7d"]]
  | .enumMember => [slot "name", ","]
  | .enumParse => ofLines [
      [slot "scope", " static ", slot "enum_name", " ", slot "function_name", "(string value)"],
      ["\x7b"],
      ["    switch (value)"],
      ["    \x7b"],
      [indented "cases" 2],
      ["        default:"],
      ["            return ", slot "enum_name", ".", slot "unknown_member", ";"],
      ["    \x7d"],
      ["\x7d"]]
  | .enumParseCase => ofLines [
      ["case ", slot "constant", ":"],
      ["    return ", slot "enum_name", ".", slot "member", ";"]]
  | .enumToString => ofLines [
      [slot "scope", " static string ", slot "function_name", "(", slot "enum_name", " value)"],
      ["\x7b"],
      ["    switch (value)"],
      ["    \x7b"],
      [indented "cases" 2],
      ["        default:"],
      ["            return \"\";"],
      ["    \x7d"],
      ["\x7d"]]
  | .enumToStringCase => ofLines [
      ["case ", slot "enum_name", ".", slot "member", ":"],
      ["    return ", slot "constant", ";"]]
  | .property => ofLines [
      [slot "doc"],
      [slot "scope", " ", slot "type", " ", slot "name"],
      ["\x7b"],
      ["    get"],
      ["    \x7b"],
      ["        return (", slot "type", ")moService.QueryStateVariable(", slot "constant", ");"],
      ["    \x7d"],
      ["\x7d"]]
  | .enumProperty => ofLines [
      [slot "doc"],
      [slot "scope", " ", slot "enum_name", " ", slot "name"],
      ["\x7b"],
      ["    get"],
      ["    \x7b"],
      ["        try"],
      ["        \x7b"],
      ["            return ", slot "parse_function", "((string)moService.QueryStateVariable(",
        slot "constant", "));"],
      ["        \x7d"],
      ["        catch (Exception)"],
      ["        \x7b"],
      ["            return ", slot "enum_name", ".", slot "unknown_member", ";"],
      ["        \x7d"],
      ["    \x7d"],
      ["\x7d"],
      [],
      [slot "string_doc"],
      [slot "scope", " string ", slot "string_name"],
      ["\x7b"],
      ["    get"],
      ["    \x7b"],
      ["        return (string)moService.QueryStateVariable(", slot "constant", ");"],
      ["    \x7d"],
      ["\x7d"]]
  | .event => ofLines [
      [slot "doc"],
      [slot "scope", " event Action<", slot "type", "> ", slot "name", ";"]]
  | .eventRaiser => ofLines [
      ["protected virtual void ", slot "name", "(", slot "type", " value)"],
      ["\x7b"],
      ["    Action<", slot "type", "> handler = ", slot "event_name", ";"],
      ["    if (handler != null)"],
      ["    \x7b"],
      ["        handler(value);"],
      ["    \x7d"],
      ["\x7d"]]
  | .dispatchBranch => ofLines [
      ["case ", slot "constant", ":"],
      ["    ", slot "raiser", "(",
        choice "enumerated" [slot "parse_function", "((string)vaValue)"]
          ["(", slot "type", ")vaValue"],
        ");"],
      ["    break;"]]
  | .dispatcher => ofLines [
      ["void IUPnPServiceCallback.StateVariableChanged(UPnPService pus, string ",
        "pcwszStateVarName, object vaValue)"],
      ["\x7b"],
      ["    switch (pcwszStateVarName)"],
      ["    \x7b"],
      [indented "branches" 2],
      ["    \x7d"],
      ["\x7d"],
      [],
      ["void IUPnPServiceCallback.ServiceInstanceDied(UPnPService pus)"],
      ["\x7b"],
      ["\x7d"]]
  | .parameter => [choice "out" ["out "] [], slot "type", " ", slot "name"]
  | .inAssignment =>
    ["loIn[", slot "index", "] = ",
      choice "enumerated" [slot "to_string_function", "(", slot "name", ")"] [slot "name"], ";"]
  | .outValue =>
    [choice "enumerated" [slot "parse_function", "((string)loOutValues[", slot "index", "])"]
       ["(", slot "type", ")loOutValues[", slot "index", "]"]]
  | .outAssignment => [slot "name", " = ", slot "value", ";"]
  | .singleReturnAction => ofLines [
      [slot "doc"],
      [slot "scope", " ", slot "return_type", " ", slot "name", "(", slot "parameters", ")"],
      ["\x7b"],
      ["    object[] loIn = new object[", slot "in_count", "];"],
      ["    object loOut = null;"],
      [indented "in_assignments" 1],
      ["    moService.InvokeAction(", slot "constant", ", loIn, ref loOut);"],
      ["    object[] loOutValues = (object[])loOut;"],
      ["    return ", slot "return_value", ";"],
      ["\x7d"]]
  | .multiOutAction => ofLines [
      [slot "doc"],
      [slot "scope", " void ", slot "name", "(", slot "parameters", ")"],
      ["\x7b"],
      ["    object[] loIn = new object[", slot "in_count", "];"],
      ["    object loOut = null;"],
      [indented "in_assignments" 1],
      ["    moService.InvokeAction(", slot "constant", ", loIn, ref loOut);"],
      [choice "out_assignments" ["    object[] loOutValues = (object[])loOut;\n",
         indented "out_assignments" 1, "\n"] [],
        "\x7d"]]
  | .deviceInfoProperty => ofLines [
      [slot "doc"],
      [slot "scope", " string ", slot "name"],
      ["\x7b"],
      ["    get"],
      ["    \x7b"],
      ["        return moDevice.", slot "member", ";"],
      ["    \x7d"],
      ["\x7d"]]
  | .serviceProperty => ofLines [
      [slot "doc"],
      [slot "scope", " ", slot "type", " ", slot "name"],
      ["\x7b"],
      ["    get"],
      ["    \x7b"],
      ["        return ",
        choice "specific" ["new ", slot "type", "(moDevice.Services[", slot "constant", "])"]
          ["moDevice.Services[", slot "constant", "]"],
        ";"],
      ["    \x7d"],
      ["\x7d"]]
  | .deviceProperty => ofLines [
      [slot "doc"],
      [slot "scope", " ", slot "type", " ", slot "name"],
      ["\x7b"],
      ["    get"],
      ["    \x7b"],
      ["        return ",
        choice "specific" ["new ", slot "type", "(moDevice.Children[", slot "constant", "])"]
          ["moDevice.Children[", slot "constant", "]"],
        ";"],
      ["    \x7d"],
      ["\x7d"]]
  | .serviceClass => ofLines [
      ["// <auto-generated>"],
      ["//     ", slot "header"],
      ["// </auto-generated>"],
      [],
      ["using System;"],
      ["using UPNPLib;"],
      [],
      ["namespace ", slot "namespace"],
      ["\x7b"],
      [indented "doc" 1],
      ["    ", slot "scope", " ", choice "partial" ["partial "] [], "class ", slot "class_name",
        " : IUPnPServiceCallback"],
      ["    \x7b"],
      ["        private UPnPService moService;"],
      [],
      ["        public ", slot "class_name", "(UPnPService service)"],
      ["        \x7b"],
      ["            moService = service;"],
      ["            moService.AddCallback(this);"],
      ["        \x7d"],
      [],
      ["        public UPnPService Service"],
      ["        \x7b"],
      ["            get"],
      ["            \x7b"],
      ["                return moService;"],
      ["            \x7d"],
      ["        \x7d"],
      [],
      [indented "body" 2],
      ["    \x7d"],
      ["\x7d"],
      []]
  | .deviceClass => ofLines [
      ["// <auto-generated>"],
      ["//     ", slot "header"],
      ["// </auto-generated>"],
      [],
      ["using System;"],
      ["using UPNPLib;"],
      [],
      ["namespace ", slot "namespace"],
      ["\x7b"],
      [indented "doc" 1],
      ["    ", slot "scope", " ", choice "partial" ["partial "] [], "class ", slot "class_name"],
      ["    \x7b"],
      ["        private UPnPDevice moDevice;"],
      [],
      ["        public ", slot "class_name", "(UPnPDevice device)"],
      ["        \x7b"],
      ["            moDevice = device;"],
      ["        \x7d"],
      [],
      ["        public UPnPDevice Device"],
      ["        \x7b"],
      ["            get"],
      ["            \x7b"],
      ["                return moDevice;"],
      ["            \x7d"],
      ["        \x7d"],
      [],
      [indented "body" 2],
      ["    \x7d"],
      ["\x7d"],
      []]

end ControlPoint.Language
