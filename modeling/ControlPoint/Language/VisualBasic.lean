import ControlPoint.Template.Basic
import ControlPoint.Template.Kind

/-!
The templates of Visual Basic. They are written against the object model of the control point, whose
types are named `UPnPService`, `UPnPDevice` and `IUPnPServiceCallback`.
-/

namespace ControlPoint.Language

open Template Template.Piece Template.Part

/-- The templates of Visual Basic. -/
def visualBasicTemplate : Kind → Template
  | .constant =>
    [slot "scope", " Const ", slot "name", " As String = ", slot "literal",
      choice "comment" [" ' ", slot "comment"] []]
  | .region => ofLines [
      ["#Region \"", slot "name", "\""],
      [],
      [slot "body"],
      [],
      ["#End Region"]]
  | .docComment => ofLines [
      ["''' <summary>"],
      [marked "summary" "''' "],
      ["''' </summary>",
        choice "remarks" ["\n''' <remarks>\n", marked "remarks" "''' ", "\n''' </remarks>"] []]]
  | .enumeration => ofLines [
      [slot "doc"],
      [slot "scope", " Enum ", slot "name"],
      [indented "members" 1],
      ["End Enum"]]
  | .enumMember => [slot "name"]
  | .enumParse => ofLines [
      [slot "scope", " Shared Function ", slot "function_name", "(ByVal value As String) As ",
        slot "enum_name"],
      ["    Select Case value"],
      [indented "cases" 2],
      ["        Case Else"],
      ["            Return ", slot "enum_name", ".", slot "unknown_member"],
      ["    End Select"],
      ["End Function"]]
  | .enumParseCase => ofLines [
      ["Case ", slot "constant"],
      ["    Return ", slot "enum_name", ".", slot "member"]]
  | .enumToString => ofLines [
      [slot "scope", " Shared Function ", slot "function_name", "(ByVal value As ",
        slot "enum_name", ") As String"],
      ["    Select Case value"],
      [indented "cases" 2],
      ["        Case Else"],
      ["            Return \"\""],
      ["    End Select"],
      ["End Function"]]
  | .enumToStringCase => ofLines [
      ["Case ", slot "enum_name", ".", slot "member"],
      ["    Return ", slot "constant"]]
  | .property => ofLines [
      [slot "doc"],
      [slot "scope", " ReadOnly Property ", slot "name", "() As ", slot "type"],
      ["    Get"],
      ["        Return CType(moService.QueryStateVariable(", slot "constant", "), ", slot "type",
        ")"],
      ["    End Get"],
      ["End Property"]]
  | .enumProperty => ofLines [
      [slot "doc"],
      [slot "scope", " ReadOnly Property ", slot "name", "() As ", slot "enum_name"],
      ["    Get"],
      ["        Try"],
      ["            Return ", slot "parse_function", "(CStr(moService.QueryStateVariable(",
        slot "constant", ")))"],
      ["        Catch ex As Exception"],
      ["            Return ", slot "enum_name", ".", slot "unknown_member"],
      ["        End Try"],
      ["    End Get"],
      ["End Property"],
      [],
      [slot "string_doc"],
      [slot "scope", " ReadOnly Property ", slot "string_name", "() As String"],
      ["    Get"],
      ["        Return CStr(moService.QueryStateVariable(", slot "constant", "))"],
      ["    End Get"],
      ["End Property"]]
  | .event => ofLines [
      [slot "doc"],
      [slot "scope", " Event ", slot "name", "(ByVal value As ", slot "type", ")"]]
  | .eventRaiser => ofLines [
      ["Protected Overridable Sub ", slot "name", "(ByVal value As ", slot "type", ")"],
      ["    RaiseEvent ", slot "event_name", "(value)"],
      ["End Sub"]]
  | .dispatchBranch => ofLines [
      ["Case ", slot "constant"],
      ["    ", slot "raiser", "(",
        choice "enumerated" [slot "parse_function", "(CStr(vaValue))"]
          ["CType(vaValue, ", slot "type", ")"],
        ")"]]
  | .dispatcher => ofLines [
      ["Private Sub StateVariableChanged(ByVal pus As UPnPService, ByVal pcwszStateVarName ",
        "As String, ByVal vaValue As Object) Implements IUPnPServiceCallback.StateVariableChanged"],
      ["    Select Case pcwszStateVarName"],
      [indented "branches" 2],
      ["    End Select"],
      ["End Sub"],
      [],
      ["Private Sub ServiceInstanceDied(ByVal pus As UPnPService) Implements ",
        "IUPnPServiceCallback.ServiceInstanceDied"],
      ["End Sub"]]
  | .parameter => [choice "out" ["ByRef"] ["ByVal"], " ", slot "name", " As ", slot "type"]
  | .inAssignment =>
    ["loIn(", slot "index", ") = ",
      choice "enumerated" [slot "to_string_function", "(", slot "name", ")"] [slot "name"]]
  | .outValue =>
    [choice "enumerated" [slot "parse_function", "(CStr(loOutValues(", slot "index", ")))"]
       ["CType(loOutValues(", slot "index", "), ", slot "type", ")"]]
  | .outAssignment => [slot "name", " = ", slot "value"]
  | .singleReturnAction => ofLines [
      [slot "doc"],
      [slot "scope", " Function ", slot "name", "(", slot "parameters", ") As ",
        slot "return_type"],
      ["    Dim loIn(", slot "in_upper", ") As Object"],
      ["    Dim loOut As Object = Nothing"],
      [indented "in_assignments" 1],
      ["    moService.InvokeAction(", slot "constant", ", loIn, loOut)"],
      ["    Dim loOutValues As Object() = CType(loOut, Object())"],
      ["    Return ", slot "return_value"],
      ["End Function"]]
  | .multiOutAction => ofLines [
      [slot "doc"],
      [slot "scope", " Sub ", slot "name", "(", slot "parameters", ")"],
      ["    Dim loIn(", slot "in_upper", ") As Object"],
      ["    Dim loOut As Object = Nothing"],
      [indented "in_assignments" 1],
      ["    moService.InvokeAction(", slot "constant", ", loIn, loOut)"],
      [choice "out_assignments" ["    Dim loOutValues As Object() = CType(loOut, Object())\n",
         indented "out_assignments" 1, "\n"] [],
        "End Sub"]]
  | .deviceInfoProperty => ofLines [
      [slot "doc"],
      [slot "scope", " ReadOnly Property ", slot "name", "() As String"],
      ["    Get"],
      ["        Return moDevice.", slot "member"],
      ["    End Get"],
      ["End Property"]]
  | .serviceProperty => ofLines [
      [slot "doc"],
      [slot "scope", " ReadOnly Property ", slot "name", "() As ", slot "type"],
      ["    Get"],
      ["        Return ",
        choice "specific" ["New ", slot "type", "(moDevice.Services(", slot "constant", "))"]
          ["moDevice.Services(", slot "constant", ")"]],
      ["    End Get"],
      ["End Property"]]
  | .deviceProperty => ofLines [
      [slot "doc"],
      [slot "scope", " ReadOnly Property ", slot "name", "() As ", slot "type"],
      ["    Get"],
      ["        Return ",
        choice "specific" ["New ", slot "type", "(moDevice.Children(", slot "constant", "))"]
          ["moDevice.Children(", slot "constant", ")"]],
      ["    End Get"],
      ["End Property"]]
  | .serviceClass => ofLines [
      ["' <auto-generated>"],
      ["'     ", slot "header"],
      ["' </auto-generated>"],
      [],
      ["Imports System"],
      ["Imports UPNPLib"],
      [],
      ["Namespace ", slot "namespace"],
      [],
      [indented "doc" 1],
      ["    ", choice "partial" ["Partial "] [], slot "scope", " Class ", slot "class_name"],
      ["        Implements IUPnPServiceCallback"],
      [],
      ["        Private moService As UPnPService"],
      [],
      ["        Public Sub New(ByVal service As UPnPService)"],
      ["            moService = service"],
      ["            moService.AddCallback(Me)"],
      ["        End Sub"],
      [],
      ["        Public ReadOnly Property Service() As UPnPService"],
      ["            Get"],
      ["                Return moService"],
      ["            End Get"],
      ["        End Property"],
      [],
      [indented "body" 2],
      [],
      ["    End Class"],
      [],
      ["End Namespace"],
      []]
  | .deviceClass => ofLines [
      ["' <auto-generated>"],
      ["'     ", slot "header"],
      ["' </auto-generated>"],
      [],
      ["Imports System"],
      ["Imports UPNPLib"],
      [],
      ["Namespace ", slot "namespace"],
      [],
      [indented "doc" 1],
      ["    ", choice "partial" ["Partial "] [], slot "scope", " Class ", slot "class_name"],
      [],
      ["        Private moDevice As UPnPDevice"],
      [],
      ["        Public Sub New(ByVal device As UPnPDevice)"],
      ["            moDevice = device"],
      ["        End Sub"],
      [],
      ["        Public ReadOnly Property Device() As UPnPDevice"],
      ["            Get"],
      ["                Return moDevice"],
      ["            End Get"],
      ["        End Property"],
      [],
      [indented "body" 2],
      [],
      ["    End Class"],
      [],
      ["End Namespace"],
      []]

end ControlPoint.Language
