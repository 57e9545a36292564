/-! # The fixed parts of AngularJS services

The lines every generated module shares: the store of the session, the interceptor that sends its
access token, the provider every service is built on, and the helpers of the user model.
-/
namespace RestBindings
namespace Client
namespace Angular

/-- The store of the session, and the interceptor that sends its access token. -/
def authServices : List String := [
  "module",
  "  .factory('SiraAuth', function() \x7b",
  "    var props = ['accessTokenId', 'currentUserId', 'rememberMe'];",
  "    var propsPrefix = '$Sira$';",
  "",
  "    function SiraAuth() \x7b",
  "      var self = this;",
  "      props.forEach(function(name) \x7b",
  "        self[name] = load(name);",
  "      \x7d);",
  "      this.currentUserData = null;",
  "    \x7d",
  "",
  "    SiraAuth.prototype.save = function() \x7b",
  "      var self = this;",
  "      var storage = this.rememberMe ? localStorage : sessionStorage;",
  "      props.forEach(function(name) \x7b",
  "        save(storage, name, self[name]);",
  "      \x7d);",
  "    \x7d;",
  "",
  "    SiraAuth.prototype.setUser = function(accessTokenId, userId, userData) \x7b",
  "      this.accessTokenId = accessTokenId;",
  "      this.currentUserId = userId;",
  "      this.currentUserData = userData;",
  "    \x7d;",
  "",
  "    SiraAuth.prototype.clearUser = function() \x7b",
  "      this.accessTokenId = null;",
  "      this.currentUserId = null;",
  "      this.currentUserData = null;",
  "    \x7d;",
  "",
  "    SiraAuth.prototype.clearStorage = function() \x7b",
  "      props.forEach(function(name) \x7b",
  "        save(sessionStorage, name, null);",
  "        save(localStorage, name, null);",
  "      \x7d);",
  "    \x7d;",
  "",
  "    return new SiraAuth();",
  "",
  "    // Storage converts values to strings; an empty string stands for null.",
  "    function save(storage, name, value) \x7b",
  "      var key = propsPrefix + name;",
  "      if (value == null) value = '';",
  "      storage[key] = value;",
  "    \x7d",
  "",
  "    function load(name) \x7b",
  "      var key = propsPrefix + name;",
  "      return localStorage[key] || sessionStorage[key] || null;",
  "    \x7d",
  "  \x7d)",
  "  .config(['$httpProvider', function($httpProvider) \x7b",
  "    $httpProvider.interceptors.push('SiraAuthRequestInterceptor');",
  "  \x7d])",
  "  .factory('SiraAuthRequestInterceptor', ['$q', 'SiraAuth',",
  "    function($q, SiraAuth) \x7b",
  "      return \x7b",
  "        'request': function(config) \x7b",
  "          if (SiraAuth.accessTokenId) \x7b",
  "            config.headers[authHeader] = SiraAuth.accessTokenId;",
  "          \x7d else if (config.__isGetCurrentUser__) \x7b",
  "            // Stub 401 for the current user request while nobody is logged in",
  "            var res = \x7b",
  "              body: \x7b error: \x7b status: 401 \x7d \x7d,",
  "              status: 401,",
  "              config: config,",
  "              headers: function() \x7b return undefined; \x7d",
  "            \x7d;",
  "            return $q.reject(res);",
  "          \x7d",
  "          return config || $q.when(config);",
  "        \x7d",
  "      \x7d;",
  "    \x7d]);"]

/-- The body of the provider that wraps `$resource`. -/
def resourceProvider : List String := [
  "/**",
  " * Change the header name that is used for sending the authentication token.",
  " */",
  "this.setAuthHeader = function(header) \x7b",
  "  authHeader = header;",
  "\x7d;",
  "",
  "/**",
  " * Change the URL of the REST API server.",
  " */",
  "this.setUrlBase = function(url) \x7b",
  "  urlBase = url;",
  "\x7d;",
  "",
  "this.$get = ['$resource', function($resource) \x7b",
  "  return function(url, params, actions) \x7b",
  "    var resource = $resource(url, params, actions);",
  "",
  "    // $save() always POSTs; route it through upsert when the model has one",
  "    if (resource.upsert) \x7b",
  "      resource.prototype.$save = function(success, error) \x7b",
  "        var result = resource.upsert.call(this, \x7b\x7d, this, success, error);",
  "        return result.$promise || result;",
  "      \x7d;",
  "    \x7d",
  "    return resource;",
  "  \x7d;",
  "\x7d];"]

/-- The session helpers of the user model. -/
def userHelpers : List String := [
  "R.getCachedCurrent = function() \x7b",
  "  var data = SiraAuth.currentUserData;",
  "  return data ? new R(data) : null;",
  "\x7d;",
  "",
  "R.isAuthenticated = function() \x7b",
  "  return this.getCurrentId() != null;",
  "\x7d;",
  "",
  "R.getCurrentId = function() \x7b",
  "  return SiraAuth.currentUserId;",
  "\x7d;"]

/-- The session helpers that `userHelpers` puts on the user model. -/
def userHelperNames : List String := ["getCachedCurrent", "isAuthenticated", "getCurrentId"]

end Angular
end Client
end RestBindings
