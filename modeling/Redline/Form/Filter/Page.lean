import Redline.Form.Encode
import Redline.Form.Filter.Text
import Redline.Form.Pretty
import Redline.Text.Link

/-!
# Filters for pages and addresses

Filters that write a value as a part of an address, of a page or of a program.
-/

namespace Redline.Form

def addressBytes (p : Powers) (v : Value) : Run (List UInt8) := do
  match v with
  | .bytes bs => return bs
  | v => return Text.utf8 (← v.displayed p)

/-- As a part of an address, or its keys and values as a query. -/
def urlencodeFilter : Filter := fun p v args => do
  let _ ← Signature.values ⟨"do_urlencode", ["value"], [], false, false⟩ args
  let walk? : Option Walk ← if v.text?.isSome then pure none
    else match v with
      | .record place => do pure (some (← (Value.view .items place).walk))
      | v => Run.orElse (some <$> v.walk) [.sort] (return none)
  match walk? with
  | none => return .text (Text.inPath (← addressBytes p v))
  | some walk =>
      let pairs ← (← walk.all p).mapM fun x => do
        let ws ← unpack (Walk.next p) 2 x
        let texts ← ws.mapM fun w => do return Text.inQuery (← addressBytes p w)
        return List.intercalate ['='] texts
      return .text (List.intercalate ['&'] pairs)

def xmlattrFilter : Filter := fun p v args => do
  let values ← Signature.values
    ⟨"do_xmlattr", ["eval_ctx", "d"], [optional "autospace" (.bool true)], false, false⟩ args
  let pairs ← (← callMember p v "items" []).items p
  let texts ← pairs.filterMapM fun pair => do
    match ← unpack (Walk.next p) 2 pair with
    | [k, w] =>
        match w with
        | .null | .missing _ => return none
        | w => return some ((← k.escaped p) ++ "=\"".toList ++ (← w.escaped p) ++ ['"'])
    | _ => return none
  let t := List.intercalate [' '] texts
  let spaced := (← (values.headD .null).truthy) && !t.isEmpty
  let t := if spaced then ' ' :: t else t
  return if (← get).escaping then .markup t else .text t

/-- Whether a text is the start of an address. -/
def isScheme (t : Text) : Bool :=
  let body := t.takeWhile (· ≠ ':')
  let rest := t.drop body.length
  2 ≤ body.length && body.all (fun c => Text.isWordChar c || ['.', '+', '-'].contains c)
    && [":", ":/", "://"].any fun s => rest = s.toList

/-- The starts of further addresses that a call gives. -/
def schemesOf (p : Powers) (v : Value) : Run (List Text) := do
  match v with
  | .null => return []
  | v =>
      (← v.items p).mapM fun s => do
        match s.text? with
        | none => Run.misfit s!"expected string or bytes-like object, got '{← s.sortName}'"
        | some t =>
            unless isScheme t do
              Run.fail .argument s!"{← s.shownString p} is not a valid URI scheme prefix."
            return t

def orderedWords (ws : List Text) : List Text :=
  (ws.eraseDups.mergeSort fun s t => compareTexts s t != .gt)

def urlizeFilter : Filter := fun p v args => do
  let values ← Signature.values
    ⟨"do_urlize", ["eval_ctx", "value"],
      [optional "trim_url_limit" .null, optional "nofollow" (.bool false), optional "target" .null,
       optional "rel" .null, optional "extra_schemes" .null], false, false⟩ args
  match values with
  | [limit, nofollow, target, rel, schemes] =>
      let own ← if ← rel.truthy then do
          match rel.text? with
          | some t => pure (Text.words none t)
          | none => lacksMember rel "split"
        else pure []
      let follow := if ← nofollow.truthy then ["nofollow".toList] else []
      let words := orderedWords (own ++ follow ++ ["noopener".toList])
      let schemes ← schemesOf p schemes
      let quoted := fun (name : String) (t : Text) => ' ' :: name.toList ++ "=\"".toList ++ t ++ ['"']
      let relText := quoted "rel" (Text.escape (List.intercalate [' '] words))
      let targetText ← if ← target.truthy then do pure (quoted "target" (← target.escaped p)) else pure []
      let limit ← match limit with
        | .null => pure none
        | v => some <$> v.toInteger
      let t := Text.LinkStyle.text ⟨limit, relText ++ targetText, schemes⟩ (← v.escaped p)
      return if (← get).escaping then .markup t else .text t
  | _ => return v

def tojsonFilter : Filter := fun p v args => do
  let values ← Signature.values ⟨"do_tojson", ["eval_ctx", "value"], [optional "indent" .null], false, false⟩ args
  return .markup (← v.toJson p (values.headD .null))

def pprintFilter : Filter := fun p v args => do
  let _ ← Signature.values ⟨"do_pprint", ["value"], [], false, false⟩ args
  return .text (← v.pretty p)

end Redline.Form
