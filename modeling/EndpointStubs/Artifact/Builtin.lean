import EndpointStubs.Artifact.Data
import EndpointStubs.Text.Pieces

/-!
# The built-in artifacts

The lines of a stub base and of a stub. Class name, method name and types stand in the text
as they are; resources stand there as quoted texts.
-/

namespace EndpointStubs

def BaseData.lines (d : BaseData) : List String :=
  ["// @generated by stubgen for package `" ++ d.packageName ++ "`. Do not edit.",
   "//",
   "// Shared base for every stub generated in this package. Include it in the same",
   "// module as the stubs, e.g. `include!(concat!(env!(\"STUBS\"), \"/StubBase.rs\"));`.",
   "",
   "/// Registers stubbed endpoints on a wiremock [`MockServer`](wiremock::MockServer).",
   "pub struct StubBase<'a> \x7b",
   "    server: &'a wiremock::MockServer,",
   "\x7d",
   "",
   "impl<'a> StubBase<'a> \x7b",
   "    pub const PACKAGE: &'static str = \"" ++ d.packageName ++ "\";",
   "",
   "    pub fn new(server: &'a wiremock::MockServer) -> Self \x7b",
   "        Self \x7b server \x7d",
   "    \x7d",
   "",
   "    pub fn server(&self) -> &wiremock::MockServer \x7b",
   "        self.server",
   "    \x7d",
   "",
   "    /// Turn a resource template such as `/orders/\x7bid\x7d` into an anchored path regex.",
   "    pub fn url_pattern(resource: &str) -> String \x7b",
   "        let mut pattern = String::from(\"^\");",
   "        for segment in resource.split('/').filter(|s| !s.is_empty()) \x7b",
   "            pattern.push('/');",
   "            if segment.starts_with('\x7b') && segment.ends_with('\x7d') \x7b",
   "                pattern.push_str(\"[^/]+\");",
   "            \x7d else \x7b",
   "                for c in segment.chars() \x7b",
   "                    if \"\\\\.+*?()|[]\x7b\x7d^$\".contains(c) \x7b",
   "                        pattern.push('\\\\');",
   "                    \x7d",
   "                    pattern.push(c);",
   "                \x7d",
   "            \x7d",
   "        \x7d",
   "        if pattern.len() == 1 \x7b",
   "            pattern.push('/');",
   "        \x7d",
   "        pattern.push('$');",
   "        pattern",
   "    \x7d",
   "",
   "    /// Mount a mock answering `verb` on `resource` with `status` and an optional JSON body.",
   "    pub async fn stub(",
   "        &self,",
   "        verb: &str,",
   "        resource: &str,",
   "        status: u16,",
   "        body: Option<serde_json::Value>,",
   "    ) \x7b",
   "        let mut response = wiremock::ResponseTemplate::new(status);",
   "        if let Some(body) = body \x7b",
   "            response = response.set_body_json(body);",
   "        \x7d",
   "        wiremock::Mock::given(wiremock::matchers::method(verb))",
   "            .and(wiremock::matchers::path_regex(Self::url_pattern(resource)))",
   "            .respond_with(response)",
   "            .mount(self.server)",
   "            .await;",
   "    \x7d",
   "\x7d"]

def StubData.lines (d : StubData) : List String :=
  ["// @generated by stubgen as `" ++ d.stubName ++ "`. Do not edit.",
   "//",
   "// Include in the same module as `" ++ d.stubBaseFullName ++ "`.",
   "",
   "/// Stubs `GET` on [`Self::resource`].",
   "pub struct " ++ d.stubClassName ++ "<'a> \x7b",
   "    base: StubBase<'a>,",
   "\x7d",
   "",
   "#[allow(non_snake_case)]",
   "impl<'a> " ++ d.stubClassName ++ "<'a> \x7b",
   "    pub const ROOT_RESOURCE: &'static str = " ++ d.rootResourceLiteral ++ ";",
   "    pub const SUB_RESOURCE: &'static str = " ++ d.subResourceLiteral ++ ";",
   "",
   "    pub fn new(server: &'a wiremock::MockServer) -> Self \x7b",
   "        Self \x7b",
   "            base: StubBase::new(server),",
   "        \x7d",
   "    \x7d",
   "",
   "    pub fn resource() -> String \x7b",
   "        format!(\"\x7b\x7d\x7b\x7d\", Self::ROOT_RESOURCE, Self::SUB_RESOURCE)",
   "    \x7d",
   "",
   "    /// Answer `GET` with `status` and `response` serialized as JSON.",
   "    pub async fn " ++ d.methodName ++ "(&self, status: u16, response: &" ++
     d.responseType ++ ") \x7b",
   "        let body = serde_json::to_value(response).ok();",
   "        self.base.stub(\"GET\", &Self::resource(), status, body).await;",
   "    \x7d",
   "",
   "    /// Answer `GET` with `status` and an empty body.",
   "    pub async fn " ++ d.methodName ++ "WithStatus(&self, status: u16) \x7b",
   "        self.base.stub(\"GET\", &Self::resource(), status, None).await;",
   "    \x7d",
   "\x7d"]

def ArtifactKind.builtinText (m : EndpointModel) : ArtifactKind → String
  | stubBase => Text.joinStrings "\n" (BaseData.ofModel m).lines
  | stub => Text.joinStrings "\n" (StubData.ofModel m).lines

end EndpointStubs
