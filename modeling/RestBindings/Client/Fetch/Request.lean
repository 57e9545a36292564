/-! # The fixed parts of TypeScript clients

The lines every generated module shares: the type of a request's options and the body of the helper
that sends requests.  The helper puts a parameter into the URL wherever the path has a colon and a
name, and leaves out what is not given.
-/
namespace RestBindings
namespace Client
namespace Fetch

/-- The options of a request, as the helper takes them. -/
def requestOptionsType : List String := [
  "interface RequestOptions \x7b",
  "  path?: Record<string, unknown>;",
  "  query?: Record<string, unknown>;",
  "  headers?: Record<string, unknown>;",
  "  body?: unknown;",
  "\x7d"]

/-- The body of the request helper, up to the value it returns. -/
def requestBody : List String := [
  "const pathParams = options.path ?? \x7b\x7d;",
  "let url = urlBase + path.replace(/:(\\w+)/g, (_: string, name: "
    ++ "string) => encodeURIComponent(String(pathParams[name])));",
  "",
  "const query = new URLSearchParams();",
  "for (const [key, value] of Object.entries(options.query ?? \x7b\x7d)) \x7b",
  "  if (value === undefined || value === null) continue;",
  "  query.append(key, typeof value === \"object\" ? JSON.stringify(value) : String(value));",
  "\x7d",
  "const search = query.toString();",
  "if (search) url += \"?\" + search;",
  "",
  "const headers: Record<string, string> = \x7b Accept: \"application/json\" \x7d;",
  "for (const [key, value] of Object.entries(options.headers ?? \x7b\x7d)) \x7b",
  "  if (value !== undefined && value !== null) headers[key] = String(value);",
  "\x7d",
  "if (accessToken) headers[authHeader] = accessToken;",
  "",
  "let body: string | undefined;",
  "if (options.body !== undefined) \x7b",
  "  headers[\"Content-Type\"] = \"application/json\";",
  "  body = JSON.stringify(options.body);",
  "\x7d",
  "",
  "const response = await fetch(url, \x7b method, headers, body \x7d);",
  "if (!response.ok) \x7b",
  "  throw new Error(`$\x7bmethod\x7d $\x7burl\x7d failed with "
    ++ "status $\x7bresponse.status\x7d`);",
  "\x7d",
  "const text = await response.text();",
  "const data = text ? JSON.parse(text) : null;"]

end Fetch
end Client
end RestBindings
