import BicepTemplates.Manifest.Document
import BicepTemplates.Manifest.Load

/-! # Templates of manifests

The way from a manifest to a template has three stages, and the first that fails tells why there
is no template.
-/

namespace BicepTemplates

inductive TemplateError where
  | load (cause : LoadError)
  | build (cause : ManifestError)
  | render (cause : Error)

def TemplateError.message : TemplateError → String
  | load cause => cause.message
  | build cause => cause.message
  | render cause => cause.message

namespace Manifest

def template (loaded : Except LoadError Manifest) : Except TemplateError String := do
  let manifest ← loaded.mapError .load
  let document ← manifest.document.mapError .build
  let (text, _) ← document.render.mapError .render
  return text

end Manifest

end BicepTemplates
